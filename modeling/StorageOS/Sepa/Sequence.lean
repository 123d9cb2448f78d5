import StorageOS.Sepa.Confirmation

/-! Remittances created, confirmed and cancelled and items returned by the bank, one operation after
another, and the sequence type of the mandates, which decides how their debits are presented. -/

namespace StorageOS

structure SepaBook where
  docs : Table InvoiceId NotedAccount
  mandates : SepaMandates
  remittances : SepaRemittances
  items : SepaItems

/-- What `createRemittance` is called with and what it reads besides the rows. -/
structure CreateRemittanceArgs where
  tenantId : TenantId
  settings : SepaSettings
  customerName : CustomerId → String
  input : CreateRemittanceInput
  today : Date
  firstDay : Date → String
  plans : List (List InvoiceId)
  suffix : InvoiceId → String
  messageId : String

/-- The documents as the reads of `createRemittance` see them. -/
def SepaBook.accounts (db : SepaBook) : Table InvoiceId Account := db.docs.view NotedAccount.account

/-- The debits that a remittance would present, `none` when its date is too soon. -/
def SepaBook.debits (args : CreateRemittanceArgs) (db : SepaBook) : Option (List Debit) :=
  let byCustomer := chargeableMandates args.today (activeMandates db.mandates)
  ((selectInvoices args.settings args.input args.today args.firstDay args.plans byCustomer
    (eligibleInvoices args.customerName args.tenantId db.accounts db.items)).toOption).map
      fun selected =>
        StorageOS.debits byCustomer (freshInvoices db.accounts db.items selected) args.suffix selected

/-- `SepaService.createRemittance`. The mandates that have expired are marked also when it is
refused. -/
def SepaBook.createRemittance (args : CreateRemittanceArgs) (db : SepaBook) : SepaBook :=
  let mandates := expireMandates (expiredMandates args.today (activeMandates db.mandates)) db.mandates
  match (db.debits args).bind fun debits => (StorageOS.createRemittance args.settings args.messageId
      args.input debits db.remittances db.items).toOption with
  | none => { db with mandates }
  | some (remittances, items) => { db with mandates, remittances, items }

/-! ### Confirmation, cancellation and returns -/

/-- What the loop of `confirmRemittance` has done: the documents, the items and the mandates of the
items it collected. -/
structure ConfirmedItems where
  docs : Table InvoiceId NotedAccount
  items : SepaItems
  collected : List MandateId

/-- One item: it is rejected, its collection was registered before, or it is registered now, and the
item fails if it cannot be. -/
def confirmItem (clock : Clock) (row : SepaRemittance) (rejected : List SepaItemId)
    (p : SepaItemId × SepaItem) (s : ConfirmedItems) : ConfirmedItems :=
  if rejected.contains p.1 then
    { s with items := setItemStatus p.1 .failed (some "Rechazado por el banco") s.items }
  else if 0 < alreadyCollected s.docs p.2 then
    { s with
      items := setItemStatus p.1 .collected none s.items
      collected := p.2.mandateId :: s.collected }
  else
    match collectItem clock row p.2 s.docs with
    | .error failure =>
      { s with items := setItemStatus p.1 .failed (some failure.message) s.items }
    | .ok docs =>
      { docs
        items := setItemStatus p.1 .collected none s.items
        collected := p.2.mandateId :: s.collected }

def confirmItems (clock : Clock) (row : SepaRemittance) (rejected : List SepaItemId) :
    List (SepaItemId × SepaItem) → ConfirmedItems → ConfirmedItems
  | [], s => s
  | p :: rest, s => confirmItems clock row rejected rest (confirmItem clock row rejected p s)

/-- A remittance can be confirmed when it is generated, or when an earlier confirmation was
interrupted and left items pending. -/
def SepaRemittance.confirmable (now : Instant) (pending : List (SepaItemId × SepaItem))
    (r : SepaRemittance) : Bool :=
  r.status = .generated || (r.status = .confirmed && !pending.isEmpty &&
    r.confirmedAt.any fun confirmedAt => resumeAfterMs ≤ now - confirmedAt)

/-- `SepaService.confirmRemittance`, run to its end. -/
def SepaBook.confirmRemittance (clock : Clock) (id : RemittanceId) (rejected : List SepaItemId)
    (db : SepaBook) : Option SepaBook := do
  let row ← db.remittances.find id
  let pending := pendingItems id db.items
  if row.confirmable clock.now pending then
    let done := confirmItems clock row rejected pending ⟨db.docs, db.items, []⟩
    return {
      docs := done.docs
      mandates := recurMandates done.collected row.collectionDate db.mandates
      remittances := db.remittances.modify id (SepaRemittance.confirm clock.now)
      items := done.items }
  else none

/-- `SepaService.cancelRemittance`. -/
def SepaBook.cancelRemittance (id : RemittanceId) (db : SepaBook) : Option SepaBook := do
  let row ← db.remittances.find id
  if row.status = .generated then
    return { db with
      remittances := db.remittances.modify id fun r => { r with status := .cancelled }
      items := db.items.updateMany (fun (_, i) => i.remittanceId = id && i.status = .pending)
        fun i => { i with status := .cancelled } }
  else none

def lastCollected (items : SepaItems) (invoiceId : InvoiceId) : Option (SepaItemId × SepaItem) :=
  ((items.rows.filter fun (_, i) => i.invoiceId = invoiceId && i.status = .collected).insertionSort
    fun p q => q.1 ≤ p.1).head?

def SepaItems.stillCollected (items : SepaItems) (mandateId : MandateId) : Bool :=
  items.values.any fun i => i.mandateId = mandateId && i.status = .collected

def resetMandate (id : MandateId) (mandates : SepaMandates) : SepaMandates :=
  mandates.updateMany (fun (k, m) => k = id && m.status = .active) fun m =>
    { m with sequenceType := .FRST }

def returnItem (id : SepaItemId) (items : SepaItems) : SepaItems :=
  items.modify id fun i =>
    { i with status := .returned, failureReason := some "Devuelto por el banco" }

/-- The bank returns the debit of an invoice. A mandate goes back to its first collection when the
debit was presented as the first and no other item of the mandate is collected. -/
def SepaBook.markSepaItemReturned (invoiceId : InvoiceId) (db : SepaBook) : SepaBook :=
  match lastCollected db.items invoiceId with
  | none => db
  | some (id, item) =>
    let items := returnItem id db.items
    if item.sequenceType ≠ .FRST then { db with items }
    else if items.stillCollected item.mandateId then { db with items }
    else { db with items, mandates := resetMandate item.mandateId db.mandates }

/-! ### Histories -/

/-- An operation. Between two of them the rest of the application changes the documents. -/
inductive SepaAction
  | createRemittance (args : CreateRemittanceArgs)
  | confirmRemittance (clock : Clock) (id : RemittanceId) (rejected : List SepaItemId)
  | cancelRemittance (id : RemittanceId)
  | markSepaItemReturned (invoiceId : InvoiceId)
  | changeDocuments (docs : Table InvoiceId NotedAccount)

/-- An operation on the rows, `none` when it is refused and changes nothing. -/
def sepaStep (db : SepaBook) : SepaAction → Option SepaBook
  | .createRemittance args => some (db.createRemittance args)
  | .confirmRemittance clock id rejected => db.confirmRemittance clock id rejected
  | .cancelRemittance id => db.cancelRemittance id
  | .markSepaItemReturned invoiceId => some (db.markSepaItemReturned invoiceId)
  | .changeDocuments docs => some { db with docs }

/-! What each operation does to the items of the mandates: which debits a remittance presents and in
which block of its file, and which items a confirmation, a cancellation or a return moves on. -/

def SepaItems.firstDebits (items : SepaItems) (mandateId : MandateId) : List SepaItem :=
  items.values.filter fun i => i.mandateId = mandateId && i.status.live && i.sequenceType = .FRST

def firstMandates (debits : List Debit) : List MandateId :=
  (debits.filter fun d => d.transaction.sequenceType = .FRST).map Debit.mandateId

/-! ### The file -/

theorem mem_pmtInf {messageId : String} {creditor : Pain008Creditor} {collectionDate : Date}
    {transactions : List Pain008Transaction} {t : Pain008Transaction} (mem : t ∈ transactions) :
    ∃ block ∈ (buildPain008 messageId creditor collectionDate transactions).pmtInf,
      block.sequenceType = t.sequenceType ∧ t ∈ block.transactions := by
  let txs := transactions.filter fun u => u.sequenceType = t.sequenceType
  have chosen : t ∈ txs := List.mem_filter.mpr ⟨mem, by simp⟩
  refine ⟨⟨t.sequenceType, txs.length, totalCents txs, txs⟩, ?_, rfl, chosen⟩
  refine List.mem_filterMap.mpr ⟨t.sequenceType, ?_, if_neg ?_⟩
  · cases t.sequenceType <;> simp
  · intro empty
    have none : txs = [] := List.isEmpty_iff.mp empty
    rw [none] at chosen
    cases chosen

/-! ### Creating a remittance -/

section

variable {items : SepaItems} {remittanceId : RemittanceId} {debits : List Debit} {m : MandateId}

theorem values_createItems : (createItems remittanceId debits items).values =
    items.values ++ debits.map fun d => d.item remittanceId := by
  induction debits generalizing items with
  | nil => exact (List.append_nil _).symm
  | cons d rest ih =>
    refine (@ih (items.push (d.item remittanceId))).trans ?_
    rw [Table.values_push, List.append_assoc, List.map_cons, List.singleton_append]

theorem find_createItems {k : SepaItemId} {i : SepaItem}
    (h : (createItems remittanceId debits items).find k = some i) :
    items.find k = some i ∨ ∃ d ∈ debits, i = d.item remittanceId := by
  induction debits generalizing items with
  | nil => exact .inl h
  | cons d rest ih =>
    rcases @ih (items.push (d.item remittanceId)) h with before | ⟨d', mem, same⟩
    · rw [Table.find_push] at before
      split at before
      · cases before
        exact .inr ⟨d, List.mem_cons_self, rfl⟩
      · exact .inl before
    · exact .inr ⟨d', List.mem_cons_of_mem _ mem, same⟩

theorem stillCollected_createItems :
    SepaItems.stillCollected (createItems remittanceId debits items) m = items.stillCollected m := by
  have none : (debits.map fun d => d.item remittanceId).any
      (fun i => i.mandateId = m && i.status = .collected) = false := by
    simp [Debit.item]
  rw [SepaItems.stillCollected, values_createItems, List.any_append, none, Bool.or_false,
    SepaItems.stillCollected]

theorem firstDebits_createItems :
    (SepaItems.firstDebits (createItems remittanceId debits items) m).length =
      (items.firstDebits m).length + (firstMandates debits).count m := by
  rw [SepaItems.firstDebits, values_createItems, List.filter_append, List.length_append,
    SepaItems.firstDebits, List.filter_map, List.length_map, firstMandates, List.count_eq_countP,
    List.countP_map, List.countP_filter, List.countP_eq_length_filter]
  congr 2
  refine List.filter_congr fun d _ => ?_
  by_cases same : d.mandateId = m <;> simp [Debit.item, SepaItemStatus.live, same]

end

section

variable {db : SepaBook} {args : CreateRemittanceArgs} {debits : List Debit}

theorem mem_activeMandates {mandates : SepaMandates} {p : MandateId × SepaMandate}
    (mem : p ∈ activeMandates mandates) : mandates.find p.1 = some p.2 ∧ p.2.status = .active := by
  obtain ⟨row, active⟩ := List.mem_filter.mp mem
  exact ⟨Table.find_eq_some.mpr row, by simpa using active⟩

/-- A debit is presented as the stored type of its mandate says, which is active. -/
theorem mem_debits (h : db.debits args = some debits) {d : Debit} (mem : d ∈ debits) :
    ∃ row, db.mandates.find d.mandateId = some row ∧ row.status = .active ∧
      d.transaction.sequenceType = row.sequenceType := by
  obtain ⟨selected, -, rfl⟩ := Option.map_eq_some_iff.mp h
  obtain ⟨i, -, made⟩ := List.mem_filterMap.mp mem
  obtain ⟨now, -, made⟩ := Option.bind_eq_some_iff.mp made
  dsimp only at made
  split at made
  · obtain ⟨⟨mandateId, mandate⟩, chosen, made⟩ := Option.bind_eq_some_iff.mp made
    cases made
    have listed := List.mem_reverse.mp (List.mem_of_find?_eq_some chosen)
    obtain ⟨row, active⟩ := mem_activeMandates (List.mem_of_mem_filter listed)
    exact ⟨mandate, row, active, rfl⟩
  · cases made

/-- What `createRemittance` does: it marks the mandates that have expired, and presents its debits
unless it is refused. -/
theorem createRemittance_cases (args : CreateRemittanceArgs) (db : SepaBook) :
    let mandates := expireMandates (expiredMandates args.today (activeMandates db.mandates))
      db.mandates
    db.createRemittance args = { db with mandates } ∨
    ∃ debits, db.debits args = some debits ∧ db.createRemittance args =
      { db with
        mandates
        remittances := db.remittances.push
          (newRemittance args.settings args.messageId args.input debits)
        items := createItems db.remittances.nextKey debits db.items } := by
  dsimp only [SepaBook.createRemittance]
  split
  · exact .inl rfl
  · rename_i remittances items made
    obtain ⟨debits, chosen, made⟩ := Option.bind_eq_some_iff.mp made
    obtain ⟨_, -, made⟩ := Outcome.bind_ok (Outcome.ok_of_toOption made)
    obtain ⟨_, -, made⟩ := Outcome.bind_ok made
    cases made
    exact .inr ⟨debits, chosen, rfl⟩

theorem find_expireMandates {expired : List (MandateId × SepaMandate)} {mandates : SepaMandates}
    {m : MandateId} {row : SepaMandate} (h : (expireMandates expired mandates).find m = some row) :
    ∃ before, mandates.find m = some before ∧ row.sequenceType = before.sequenceType ∧
      (row.status = .active → before.status = .active) := by
  rw [expireMandates, Table.find_updateMany, Option.map_eq_some_iff] at h
  obtain ⟨before, found, rfl⟩ := h
  refine ⟨before, found, ?_, ?_⟩
  · dsimp only
    split <;> rfl
  · dsimp only
    split
    · intro active
      cases active
    · exact fun active => active

end

/-! ### Items that move on -/

section

variable {items items' : SepaItems} {m : MandateId}

theorem stillCollected_iff : items.stillCollected m = true ↔
    ∃ k i, items.find k = some i ∧ i.mandateId = m ∧ i.status = .collected := by
  simp only [SepaItems.stillCollected, List.any_eq_true, Bool.and_eq_true, decide_eq_true_eq,
    Table.mem_values]
  constructor
  · rintro ⟨i, ⟨k, found⟩, same, collected⟩
    exact ⟨k, i, found, same, collected⟩
  · rintro ⟨k, i, found, same, collected⟩
    exact ⟨i, ⟨k, found⟩, same, collected⟩

theorem firstDebits_le {g : SepaItemId × SepaItem → SepaItemId × SepaItem}
    (rows : items'.rows = items.rows.map g)
    (keeps : ∀ r ∈ items.rows, (g r).2.mandateId = r.2.mandateId ∧
      (g r).2.sequenceType = r.2.sequenceType ∧ ((g r).2.status.live = true → r.2.status.live = true))
    (m : MandateId) : (items'.firstDebits m).length ≤ (items.firstDebits m).length := by
  simp only [SepaItems.firstDebits, Table.values, rows, ← List.countP_eq_length_filter,
    List.countP_map]
  refine List.countP_mono_left fun r mem first => ?_
  obtain ⟨mandate, sequence, alive⟩ := keeps r mem
  simp only [Function.comp_apply, Bool.and_eq_true, decide_eq_true_eq, mandate, sequence] at first ⊢
  exact ⟨⟨first.1.1, alive first.1.2⟩, first.2⟩

theorem firstDebits_modify_le {k : SepaItemId} {f : SepaItem → SepaItem}
    (mandate : ∀ i, (f i).mandateId = i.mandateId)
    (sequence : ∀ i, (f i).sequenceType = i.sequenceType)
    (alive : ∀ i, items.find k = some i → (f i).status.live = true → i.status.live = true)
    (m : MandateId) :
    (SepaItems.firstDebits (items.modify k f) m).length ≤ (items.firstDebits m).length := by
  refine firstDebits_le rfl (fun r mem => ?_) m
  split
  · rename_i atKey
    exact ⟨mandate _, sequence _, alive r.2 (Table.find_eq_some.mpr (atKey ▸ mem))⟩
  · exact ⟨rfl, rfl, fun live => live⟩

end

/-! ### Confirming -/

section

variable {clock : Clock} {row : SepaRemittance} {rejected : List SepaItemId} {s : ConfirmedItems}

theorem confirmItem_cases (clock : Clock) (row : SepaRemittance) (rejected : List SepaItemId)
    (p : SepaItemId × SepaItem) (s : ConfirmedItems) :
    ∃ status failureReason,
      (confirmItem clock row rejected p s).items = setItemStatus p.1 status failureReason s.items ∧
      (status = .failed ∧ (confirmItem clock row rejected p s).collected = s.collected ∨
        status = .collected ∧
          (confirmItem clock row rejected p s).collected = p.2.mandateId :: s.collected) := by
  rw [confirmItem]
  split
  · exact ⟨_, _, rfl, .inl ⟨rfl, rfl⟩⟩
  · split
    · exact ⟨_, _, rfl, .inr ⟨rfl, rfl⟩⟩
    · split
      · exact ⟨_, _, rfl, .inl ⟨rfl, rfl⟩⟩
      · exact ⟨_, _, rfl, .inr ⟨rfl, rfl⟩⟩

/-- What the loop does: the other items stay, each pending one fails or is collected with its
mandate, and the mandates collected have such an item. -/
structure ConfirmedLoop (pending : List (SepaItemId × SepaItem)) (s s' : ConfirmedItems) : Prop where
  others : ∀ k, k ∉ pending.map Prod.fst → s'.items.find k = s.items.find k
  items : ∀ p ∈ pending, ∃ status failureReason,
    s'.items.find p.1 = some { p.2 with status, failureReason } ∧
      (status = .failed ∨ status = .collected ∧ p.2.mandateId ∈ s'.collected)
  collected : ∀ m ∈ s'.collected, m ∈ s.collected ∨ s'.items.stillCollected m = true
  kept : ∀ m ∈ s.collected, m ∈ s'.collected
  first : ∀ m, (s'.items.firstDebits m).length ≤ (s.items.firstDebits m).length

theorem confirmItems_loop {pending : List (SepaItemId × SepaItem)}
    (distinct : (pending.map Prod.fst).Nodup)
    (rows : ∀ p ∈ pending, s.items.find p.1 = some p.2 ∧ p.2.status = .pending) :
    ConfirmedLoop pending s (confirmItems clock row rejected pending s) := by
  induction pending generalizing s with
  | nil =>
    exact ⟨fun _ _ => rfl, fun _ mem => (nomatch mem), fun _ mem => .inl mem, fun _ mem => mem,
      fun _ => le_refl _⟩
  | cons p rest ih =>
    obtain ⟨fresh, distinct⟩ := List.nodup_cons.mp distinct
    obtain ⟨found, waiting⟩ := rows p List.mem_cons_self
    obtain ⟨status, failureReason, items, ends⟩ := confirmItem_cases clock row rejected p s
    have atOthers : ∀ k, k ≠ p.1 →
        (confirmItem clock row rejected p s).items.find k = s.items.find k := by
      intro k other
      rw [items, setItemStatus, Table.find_modify_ne _ other]
    have atItem : (confirmItem clock row rejected p s).items.find p.1 =
        some { p.2 with status, failureReason } := by
      rw [items, setItemStatus, Table.find_modify_self, found, Option.map_some]
    have after := ih (s := confirmItem clock row rejected p s) distinct fun q mem => by
      obtain ⟨found', waiting'⟩ := rows q (List.mem_cons_of_mem _ mem)
      rw [atOthers q.1 fun same => fresh (same ▸ List.mem_map_of_mem mem)]
      exact ⟨found', waiting'⟩
    have stays := (after.others p.1 fresh).trans atItem
    have first : ∀ m, ((confirmItem clock row rejected p s).items.firstDebits m).length ≤
        (s.items.firstDebits m).length := by
      rw [items]
      refine firstDebits_modify_le (fun _ => rfl) (fun _ => rfl) fun i found' _ => ?_
      cases found.symm.trans found'
      rw [waiting]
      rfl
    refine ⟨fun k other => ?_, fun q mem => ?_, fun m mem => ?_, fun m mem => ?_,
      fun m => (after.first m).trans (first m)⟩
    · simp only [List.map_cons, List.mem_cons, not_or] at other
      exact (after.others k other.2).trans (atOthers k other.1)
    · rcases List.mem_cons.mp mem with rfl | mem
      · refine ⟨status, failureReason, stays, ends.imp And.left fun collects => ?_⟩
        refine ⟨collects.1, after.kept _ ?_⟩
        rw [collects.2]
        exact List.mem_cons_self
      · exact after.items q mem
    · rcases after.collected m mem with mem | collected
      · rcases ends with ⟨-, same⟩ | ⟨rfl, adds⟩
        · exact .inl (same ▸ mem)
        · rw [adds] at mem
          rcases List.mem_cons.mp mem with rfl | mem
          · exact .inr (stillCollected_iff.mpr ⟨p.1, _, stays, rfl, rfl⟩)
          · exact .inl mem
      · exact .inr collected
    · refine after.kept m ?_
      rcases ends with ⟨-, same⟩ | ⟨-, adds⟩
      · exact same ▸ mem
      · exact adds ▸ List.mem_cons_of_mem _ mem

theorem pendingItems_distinct (id : RemittanceId) (items : SepaItems) :
    ((pendingItems id items).map Prod.fst).Nodup :=
  items.distinct.sublist (List.filter_sublist.map _)

theorem find_recurMandates {collected : List MandateId} {date : Date} {mandates : SepaMandates}
    {m : MandateId} {row : SepaMandate}
    (h : (recurMandates collected date mandates).find m = some row) :
    ∃ before, mandates.find m = some before ∧ row.status = before.status ∧
      (row.sequenceType = .RCUR ↔
        before.sequenceType = .RCUR ∨ m ∈ collected ∧ before.status = .active) := by
  simp only [recurMandates, Table.find_updateMany, Option.map_map, Option.map_eq_some_iff,
    Function.comp_apply, List.contains_eq_mem] at h
  obtain ⟨before, found, rfl⟩ := h
  refine ⟨before, found, ?_, ?_⟩
  · split <;> split <;> rfl
  · cases sequence : before.sequenceType <;> by_cases mem : m ∈ collected <;>
      by_cases active : before.status = .active <;> simp [sequence, mem, active]

end

end StorageOS
