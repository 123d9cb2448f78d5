import StorageOS.Lib.Processes
import StorageOS.Payments.Collections
import StorageOS.Sepa.Remittances

/-! `SepaService.confirmRemittance`: a call claims the remittance, goes through its pending items,
registers the collection of each, and makes the mandates of those it collected recurrent. Each read
and each transaction is a step, which can throw, and a call can be interrupted before any of them. -/

namespace StorageOS

open Processes

/-- The rows of a tenant, and the items that a call has been told the bank rejected. -/
structure ConfirmationDb where
  docs : Table InvoiceId NotedAccount
  mandates : SepaMandates
  remittances : SepaRemittances
  items : SepaItems
  told : List SepaItemId

def resumeAfterMs : ℤ := 5 * 60000

def includes (s part : String) : Bool := part.toList <:+: s.toList

def NotedPayment.carries (reference : String) (p : NotedPayment) : Bool :=
  p.notes.any fun notes => includes notes reference

/-- The payments by direct debit of the invoice of an item whose notes carry its reference. -/
def alreadyCollected (docs : Table InvoiceId NotedAccount) (i : SepaItem) : ℕ :=
  ((docs.find i.invoiceId).map fun a => (a.payments.values.filter fun p =>
    p.methodType = .sepaDebit && p.carries i.endToEndId).length).getD 0

def SepaItem.collection (i : SepaItem) : MarkPaidManuallyInput where
  amount := euros i.amount
  positive := euros_pos i.positive
  paidAt := none
  methodType := .sepaDebit
  overridePaymentInFlight := true
  allowPartialNonCash := true
  allowInSepaRemittance := true

def collectionNotes (row : SepaRemittance) (i : SepaItem) : String :=
  "Remesa SEPA " ++ row.name ++ " · " ++ i.endToEndId

def collectItem (clock : Clock) (row : SepaRemittance) (i : SepaItem)
    (docs : Table InvoiceId NotedAccount) : Outcome (Table InvoiceId NotedAccount) := do
  let a ← orFail ((docs.find i.invoiceId).filter fun a => a.invoice.deletedAt.isNone)
    (notFound "invoice_not_found" "Factura no encontrada")
  let b ← a.markPaidManually clock none i.collection (collectionNotes row i)
  return docs.modify i.invoiceId fun _ => b

def setItemStatus (id : SepaItemId) (status : SepaItemStatus) (failureReason : Option String)
    (items : SepaItems) : SepaItems :=
  items.modify id fun i => { i with status, failureReason }

def pendingItems (id : RemittanceId) (items : SepaItems) : List (SepaItemId × SepaItem) :=
  items.rows.filter fun (_, i) => i.remittanceId = id && i.status = .pending

variable {p : SepaItemId × SepaItem} {row : SepaRemittance} {clock : Clock} {rejected : List SepaItemId}

theorem mem_pendingItems {id : RemittanceId} {items : SepaItems} (mem : p ∈ pendingItems id items) :
    items.find p.1 = some p.2 ∧ p.2.remittanceId = id ∧ p.2.status = .pending := by
  obtain ⟨row, selected⟩ := List.mem_filter.mp mem
  simp only [Bool.and_eq_true, decide_eq_true_eq] at selected
  exact ⟨Table.find_eq_some.mpr row, selected.1, selected.2⟩

/-- The active mandates collected for the first time become recurrent. -/
def recurMandates (collected : List MandateId) (collectionDate : Date) (mandates : SepaMandates) :
    SepaMandates :=
  (mandates.updateMany
    (fun (id, m) => collected.contains id && m.sequenceType = .FRST && m.status = .active)
    fun m => { m with sequenceType := .RCUR }).updateMany
    (fun (id, _) => collected.contains id) fun m => { m with lastCollectedAt := some collectionDate }

def SepaRemittance.confirm (now : Instant) (r : SepaRemittance) : SepaRemittance :=
  { r with status := .confirmed, confirmedAt := some now }

/-! ### Calls -/

/-- A call that goes through the items: the remittance as it was read, the items the bank rejected,
the mandates of the items collected by this call and the items left. -/
structure ConfirmationRun where
  row : SepaRemittance
  rejected : List SepaItemId
  collected : List MandateId
  rest : List (SepaItemId × SepaItem)

/-- What a call does next. -/
inductive Confirming
  | claim (row : SepaRemittance) (rejected : List SepaItemId)
  | countPending (row : SepaRemittance) (confirmedAt : Instant) (rejected : List SepaItemId)
  | resume (row : SepaRemittance) (confirmedAt : Instant) (rejected : List SepaItemId)
  | readItems (row : SepaRemittance) (rejected : List SepaItemId)
  /-- The next item, or the mandates when none is left. -/
  | loop (run : ConfirmationRun)
  | register (run : ConfirmationRun) (id : SepaItemId) (item : SepaItem)
  | markCollected (run : ConfirmationRun) (id : SepaItemId) (item : SepaItem)
  | markFailed (run : ConfirmationRun) (id : SepaItemId) (item : SepaItem) (reason : String)

/-- A step is made at a time, or throws an error with a message, or the call is interrupted. -/
inductive ConfirmationInput
  | made (clock : Clock)
  | throws (reason : String)
  | interrupted

/-- A call begins with its remittance and the items the bank rejected. -/
def enterConfirmation (id : RemittanceId) (db : ConfirmationDb) (rejected : List SepaItemId) :
    Option Confirming :=
  (db.remittances.find id).map fun row => .claim row rejected

/-- The claim of a remittance: a generated one is confirmed, a confirmed one may be resumed. -/
def claimConfirmation (id : RemittanceId) (clock : Clock) (row : SepaRemittance)
    (rejected : List SepaItemId) (db : ConfirmationDb) : ConfirmationDb × Option Confirming :=
  if (db.remittances.find id).any fun r => r.status = .generated then
    ({ db with remittances := db.remittances.modify id (SepaRemittance.confirm clock.now) },
      some (.readItems row rejected))
  else
    match row.status, row.confirmedAt with
    | .confirmed, some confirmedAt => (db, some (.countPending row confirmedAt rejected))
    | _, _ => (db, none)

/-- The resumption of a remittance, unless another call has taken it over. -/
def resumeConfirmation (id : RemittanceId) (clock : Clock) (row : SepaRemittance)
    (confirmedAt : Instant) (rejected : List SepaItemId) (db : ConfirmationDb) :
    ConfirmationDb × Option Confirming :=
  if (db.remittances.find id).any fun r =>
      r.status = .confirmed && r.confirmedAt = some confirmedAt then
    ({ db with remittances := db.remittances.modify id (SepaRemittance.confirm clock.now) },
      some (.readItems row rejected))
  else (db, none)

/-- The first step for an item: a rejected one is marked as failed, and for another one the payments
that carry its reference are counted. -/
def beginItem (run : ConfirmationRun) (id : SepaItemId) (item : SepaItem) (db : ConfirmationDb) :
    ConfirmationDb × Option Confirming :=
  if run.rejected.contains id then
    ({ db with items := setItemStatus id .failed (some "Rechazado por el banco") db.items },
      some (.loop run))
  else if 0 < alreadyCollected db.docs item then (db, some (.markCollected run id item))
  else (db, some (.register run id item))

/-- What follows a step that throws: an item's error is caught, and the call ends with any other. -/
def catchItem (reason : String) : Confirming → Option Confirming
  | .loop run =>
    match run.rest with
    | (id, item) :: rest =>
      if run.rejected.contains id then none
      else some (.markFailed { run with rest } id item reason)
    | [] => none
  | .register run id item | .markCollected run id item => some (.markFailed run id item reason)
  | _ => none

def nextConfirmation (id : RemittanceId) (db : ConfirmationDb) :
    Confirming → ConfirmationInput → Option (ConfirmationDb × Option Confirming)
  | _, .interrupted => some (db, none)
  | phase, .throws reason => some (db, catchItem reason phase)
  | .claim row rejected, .made clock => some (claimConfirmation id clock row rejected db)
  | .countPending row confirmedAt rejected, .made clock =>
    if (pendingItems id db.items).isEmpty || clock.now - confirmedAt < resumeAfterMs then
      some (db, none)
    else some (db, some (.resume row confirmedAt rejected))
  | .resume row confirmedAt rejected, .made clock =>
    some (resumeConfirmation id clock row confirmedAt rejected db)
  | .readItems row rejected, .made _ =>
    let rest := pendingItems id db.items
    some ({ db with told := (rest.map Prod.fst).filter rejected.contains ++ db.told },
      some (.loop ⟨row, rejected, [], rest⟩))
  | .loop run, .made _ =>
    match run.rest with
    | (id, item) :: rest => some (beginItem { run with rest } id item db)
    | [] =>
      some ({ db with
        mandates := recurMandates run.collected run.row.collectionDate db.mandates }, none)
  | .register run id item, .made clock =>
    match collectItem clock run.row item db.docs with
    | .error failure => some (db, some (.markFailed run id item failure.message))
    | .ok docs => some ({ db with docs }, some (.markCollected run id item))
  | .markCollected run id item, .made _ =>
    some ({ db with items := setItemStatus id .collected none db.items },
      some (.loop { run with collected := item.mandateId :: run.collected }))
  | .markFailed run id _ reason, .made _ =>
    some ({ db with items := setItemStatus id .failed (some reason) db.items }, some (.loop run))

def confirmation (id : RemittanceId) :
    System ConfirmationDb Confirming (List SepaItemId) ConfirmationInput where
  enter := enterConfirmation id
  next := nextConfirmation id

/-! The condition on the steps of the calls that confirm a remittance, and what each step does to its
items and to the payments that carry their references. -/

/-- The payments of the invoice of an item whose notes carry its reference. -/
def carried (docs : Table InvoiceId NotedAccount) (i : SepaItem) : ℕ :=
  ((docs.find i.invoiceId).map fun a =>
    (a.payments.values.filter (NotedPayment.carries i.endToEndId)).length).getD 0

def Confirming.collected : Confirming → List MandateId
  | .loop run | .register run .. | .markCollected run .. | .markFailed run .. => run.collected
  | _ => []

def ConfirmationDb.recurrent (db : ConfirmationDb) (id : MandateId) : Bool :=
  (db.mandates.find id).all fun m => m.sequenceType = .RCUR

/-- The condition on steps. A call that ends early leaves no mandate that it collected behind. A rejection is told
before the item is collected. A payment is registered once, for an item that is pending. An item is marked as failed
when no payment carries its reference. The mandates collected are active until they are recurrent. -/
def findsUnsettled (id : RemittanceId) (db : ConfirmationDb) :
    Confirming → ConfirmationInput → Bool
  | phase, .interrupted => phase.collected.all db.recurrent
  | phase, .throws reason => (catchItem reason phase).isSome || phase.collected.all db.recurrent
  | .readItems _ rejected, .made _ =>
    (pendingItems id db.items).all fun (k, i) => !rejected.contains k || carried db.docs i = 0
  | .loop run, .made _ =>
    !run.rest.isEmpty || run.collected.all fun k =>
      db.recurrent k || (db.mandates.find k).any fun m => m.status = .active
  | .register _ k item, .made _ =>
    ((db.items.find k).any fun i => i.status = .pending) && carried db.docs item = 0 &&
      !db.told.contains k
  | .markFailed _ _ item _, .made _ => carried db.docs item = 0
  | _, _ => true

/-- A remittance as `createRemittance` leaves it, with references that no payment of its invoices
carries yet, and the mandates that have a collected item recurrent. -/
structure Unconfirmed (id : RemittanceId) (db : ConfirmationDb) : Prop where
  items : ∀ k i, db.items.find k = some i → i.remittanceId = id →
    i.status = .pending ∧ carried db.docs i = 0
  references : ∀ k i, db.items.find k = some i → i.remittanceId = id →
    ∃ invoiceNumber suffix, i.endToEndId = endToEndId invoiceNumber suffix
  distinct : ∀ k i k' i', db.items.find k = some i → i.remittanceId = id →
    db.items.find k' = some i' → i'.remittanceId = id → i.invoiceId = i'.invoiceId → k = k'
  recurrent : ∀ k i, db.items.find k = some i → i.status = .collected →
    db.recurrent i.mandateId = true
  told : db.told = []

/-- A remittance whose items are collected exactly when one payment carries their reference, where
what the bank rejected has none, and every mandate with a collected item is recurrent. -/
structure ConfirmedOnce (id : RemittanceId) (db : ConfirmationDb) : Prop where
  collected : ∀ k i, db.items.find k = some i → i.remittanceId = id →
    (i.status = .collected ↔ carried db.docs i = 1)
  rejected : ∀ k ∈ db.told, ∀ i, db.items.find k = some i → carried db.docs i = 0
  recurrent : ∀ k i, db.items.find k = some i → i.status = .collected →
    db.recurrent i.mandateId = true

/-! ### References -/

theorem endToEndId_ne_nil (invoiceNumber suffix : String) :
    (endToEndId invoiceNumber suffix).toList ≠ [] := by
  rw [endToEndId, String.toList_ofList]
  simp [String.toList_append, isReferenceChar]

variable {c : Char} {run : ConfirmationRun}

theorem isReferenceChar_of_mem {invoiceNumber suffix : String} (mem : c ∈ (endToEndId invoiceNumber suffix).toList) :
    isReferenceChar c = true := by
  rw [endToEndId, String.toList_ofList] at mem
  exact (List.mem_filter.mp (List.mem_of_mem_take mem)).2

theorem isSpace_of_isReferenceChar (h : isReferenceChar c = true) :
    isSpace c = false := by
  have bounds : (65 ≤ c.toNat ∧ c.toNat ≤ 90) ∨ (97 ≤ c.toNat ∧ c.toNat ≤ 122) ∨
      (48 ≤ c.toNat ∧ c.toNat ≤ 57) ∨ c.toNat = 45 := by
    simp only [isReferenceChar, Bool.or_eq_true, Bool.and_eq_true, decide_eq_true_eq,
      Char.le_def, UInt32.le_iff_toNat_le] at h
    rcases h with ((h | h) | h) | rfl
    · exact .inl h
    · exact .inr (.inl h)
    · exact .inr (.inr (.inl h))
    · exact .inr (.inr (.inr rfl))
  rw [← Bool.not_eq_true]
  simp only [isSpace, Bool.or_eq_true, Bool.and_eq_true, decide_eq_true_eq, List.contains_eq_mem,
    List.mem_cons, List.not_mem_nil, or_false]
  omega

section

variable {docs docs' : Table InvoiceId NotedAccount} {i j : SepaItem}

/-- The notes of a payment are stored whole, and they carry the reference of its item. -/
theorem carries_collectionNotes {payment : Payment}
    (reference : ∃ invoiceNumber suffix, i.endToEndId = endToEndId invoiceNumber suffix) :
    NotedPayment.carries i.endToEndId ⟨payment, storedNotes (collectionNotes row i)⟩ = true := by
  obtain ⟨invoiceNumber, suffix, reference⟩ := reference
  have text : (collectionNotes row i).toList = "Remesa SEPA ".toList ++ row.name.toList ++
      " · ".toList ++ i.endToEndId.toList := by
    simp only [collectionNotes, String.toList_append]
  have whole : trim (collectionNotes row i) = collectionNotes row i := by
    apply trim_of_ends
    · intro c first
      rw [text] at first
      obtain rfl : 'R' = c := by simpa using first
      decide
    · intro c last
      rw [text, List.getLast?_append_of_ne_nil _ (reference ▸ endToEndId_ne_nil _ _)] at last
      exact isSpace_of_isReferenceChar
        (isReferenceChar_of_mem (reference ▸ List.mem_of_mem_getLast? last))
  have some : collectionNotes row i ≠ "" := by
    intro empty
    rw [empty] at text
    simp at text
  rw [NotedPayment.carries, storedNotes, whole, if_neg some, Option.any_some, includes,
    decide_eq_true_eq, text]
  exact (List.suffix_append _ _).isInfix

theorem alreadyCollected_le (docs : Table InvoiceId NotedAccount) (i : SepaItem) :
    alreadyCollected docs i ≤ carried docs i := by
  rw [alreadyCollected, carried]
  cases docs.find i.invoiceId with
  | none => exact le_refl _
  | some a =>
    simp only [Option.map_some, Option.getD_some, ← List.countP_eq_length_filter]
    exact List.countP_mono_left fun p _ carries => (Bool.and_eq_true _ _ ▸ carries).2

theorem collectItem_ok (h : collectItem clock row i docs = .ok docs')
    (reference : ∃ invoiceNumber suffix, i.endToEndId = endToEndId invoiceNumber suffix) :
    carried docs' i = carried docs i + 1 ∧
      ∀ j : SepaItem, j.invoiceId ≠ i.invoiceId → carried docs' j = carried docs j := by
  obtain ⟨a, found, h⟩ := Outcome.bind_ok h
  obtain ⟨b, registered, h⟩ := Outcome.bind_ok h
  cases h
  have found := (Option.filter_eq_some_iff.mp (orFail_ok found)).1
  obtain ⟨payment, -, payments⟩ := NotedAccount.markPaidManually_ok registered
  constructor
  · rw [carried, Table.find_modify_self, carried, found]
    simp only [Option.map_some, Option.getD_some]
    rw [payments, Table.values_push, List.filter_append, List.length_append,
      List.filter_cons_of_pos (carries_collectionNotes reference)]
    rfl
  · intro j other
    rw [carried, Table.find_modify_ne _ other, carried]

end

/-! ### Items and their payments -/

/-- An item that a call has read is still the same one, up to its status. -/
def Known (id : RemittanceId) (db : ConfirmationDb) (p : SepaItemId × SepaItem) : Prop :=
  p.2.remittanceId = id ∧
    ∃ status failureReason, db.items.find p.1 = some { p.2 with status, failureReason }

/-- What the payments that carry the reference of an item say about it. -/
def SepaItem.Settled (i : SepaItem) (payments : ℕ) : Prop :=
  match i.status with
  | .pending => payments ≤ 1
  | .collected => payments = 1
  | _ => payments = 0

structure Counted (id : RemittanceId) (db : ConfirmationDb) : Prop where
  items : ∀ k i, db.items.find k = some i → i.remittanceId = id → i.Settled (carried db.docs i)
  references : ∀ k i, db.items.find k = some i → i.remittanceId = id →
    ∃ invoiceNumber suffix, i.endToEndId = endToEndId invoiceNumber suffix
  distinct : ∀ k i k' i', db.items.find k = some i → i.remittanceId = id →
    db.items.find k' = some i' → i'.remittanceId = id → i.invoiceId = i'.invoiceId → k = k'
  told : ∀ k ∈ db.told, ∃ i, db.items.find k = some i ∧ i.remittanceId = id ∧
    carried db.docs i = 0

structure ConfirmationRun.Sound (id : RemittanceId) (db : ConfirmationDb) (run : ConfirmationRun) :
    Prop where
  known : ∀ p ∈ run.rest, Known id db p
  told : ∀ p ∈ run.rest, run.rejected.contains p.1 = true → p.1 ∈ db.told

def Confirming.Sound (id : RemittanceId) (db : ConfirmationDb) : Confirming → Prop
  | .loop run => run.Sound id db
  | .register run k item | .markFailed run k item _ => run.Sound id db ∧ Known id db (k, item)
  | .markCollected run k item =>
    run.Sound id db ∧ Known id db (k, item) ∧ carried db.docs item = 1
  | _ => True

structure ItemsKept (id : RemittanceId) (db db' : ConfirmationDb) : Prop where
  known : ∀ p, Known id db p → Known id db' p
  told : ∀ k ∈ db.told, k ∈ db'.told
  carried : ∀ p, Known id db p → carried db.docs p.2 = 1 → carried db'.docs p.2 = 1

section

variable {id : RemittanceId} {db db' : ConfirmationDb} {phase : Confirming} {k : SepaItemId}
  {item : SepaItem}

theorem Unconfirmed.counted (start : Unconfirmed id db) : Counted id db where
  items k i found mine := by
    obtain ⟨pending, none⟩ := start.items k i found mine
    rw [SepaItem.Settled, pending, none]
    exact Nat.zero_le 1
  references := start.references
  distinct := start.distinct
  told k mem := by
    rw [start.told] at mem
    cases mem

theorem ConfirmationRun.Sound.mono (sound : run.Sound id db) (kept : ItemsKept id db db') : run.Sound id db' where
  known p mem := kept.known p (sound.known p mem)
  told p mem rejected := kept.told _ (sound.told p mem rejected)

theorem Confirming.Sound.mono (sound : phase.Sound id db) (kept : ItemsKept id db db') :
    phase.Sound id db' := by
  cases phase with
  | claim | countPending | resume | readItems => trivial
  | loop run => exact ConfirmationRun.Sound.mono sound kept
  | register run k item | markFailed run k item => exact ⟨sound.1.mono kept, kept.known _ sound.2⟩
  | markCollected run k item =>
    exact ⟨sound.1.mono kept, kept.known _ sound.2.1, kept.carried (k, item) sound.2.1 sound.2.2⟩

theorem ConfirmationRun.Sound.tail {rest : List (SepaItemId × SepaItem)} (sound : run.Sound id db)
    (cons : run.rest = p :: rest) :
    Known id db p ∧ ConfirmationRun.Sound id db { run with rest } := by
  refine ⟨sound.known p (cons ▸ List.mem_cons_self), fun q mem => ?_, fun q mem => ?_⟩
  · exact sound.known q (cons ▸ List.mem_cons_of_mem _ mem)
  · exact sound.told q (cons ▸ List.mem_cons_of_mem _ mem)

theorem carried_congr (docs : Table InvoiceId NotedAccount) {i j : SepaItem}
    (invoice : i.invoiceId = j.invoiceId) (reference : i.endToEndId = j.endToEndId) :
    carried docs i = carried docs j := by
  rw [carried, carried, invoice, reference]

theorem Known.carried_eq {i : SepaItem} (known : Known id db (k, item))
    (found : db.items.find k = some i) :
    i.remittanceId = id ∧ i.invoiceId = item.invoiceId ∧ i.endToEndId = item.endToEndId ∧
      i.mandateId = item.mandateId ∧ carried db.docs i = carried db.docs item := by
  obtain ⟨mine, status, failureReason, row⟩ := known
  cases row.symm.trans found
  exact ⟨mine, rfl, rfl, rfl, carried_congr _ rfl rfl⟩

theorem Counted.setStatus (counted : Counted id db) (known : Known id db (k, item))
    {status : SepaItemStatus} {failureReason : Option String}
    (settled : SepaItem.Settled { item with status } (carried db.docs item)) :
    Counted id { db with items := setItemStatus k status failureReason db.items } ∧
      ItemsKept id db { db with items := setItemStatus k status failureReason db.items } := by
  have same : ∀ j i, Table.find (setItemStatus k status failureReason db.items) j = some i →
      ∃ i₀, db.items.find j = some i₀ ∧ i₀.remittanceId = i.remittanceId ∧
        i₀.invoiceId = i.invoiceId ∧ i₀.endToEndId = i.endToEndId := by
    intro j i found
    rcases Table.find_modify_cases found with ⟨-, before⟩ | ⟨rfl, i₀, before, rfl⟩
    · exact ⟨i, before, rfl, rfl, rfl⟩
    · exact ⟨i₀, before, rfl, rfl, rfl⟩
  refine ⟨⟨fun j i found mine => ?_, fun j i found mine => ?_, fun j i j' i' found mine found'
    mine' sameInvoice => ?_, fun j mem => ?_⟩, ⟨fun p other => ?_, fun _ mem => mem, fun _ _ one => one⟩⟩
  · rcases Table.find_modify_cases found with ⟨-, before⟩ | ⟨rfl, i₀, before, rfl⟩
    · exact counted.items j i before mine
    · obtain ⟨-, invoice, reference, -⟩ := known.carried_eq before
      dsimp only
      rw [carried_congr db.docs (i := { i₀ with status, failureReason }) (j := item) invoice reference]
      exact settled
  · obtain ⟨i₀, found, remittance, -, reference⟩ := same j i found
    exact reference ▸ counted.references j i₀ found (remittance.trans mine)
  · obtain ⟨i₀, found, remittance, invoice, -⟩ := same j i found
    obtain ⟨i₁, found', remittance', invoice', -⟩ := same j' i' found'
    exact counted.distinct j i₀ j' i₁ found (remittance.trans mine) found' (remittance'.trans mine')
      (invoice.trans (sameInvoice.trans invoice'.symm))
  · obtain ⟨i, found, mine, none⟩ := counted.told j mem
    exact Table.exists_find_modify found (fun _ => ⟨mine, none⟩) ⟨mine, none⟩
  · obtain ⟨mine, s, r, found⟩ := other
    refine ⟨mine, ?_⟩
    simp only [setItemStatus, Table.find_modify, found, Option.map_some]
    split
    · exact ⟨status, failureReason, rfl⟩
    · exact ⟨s, r, rfl⟩

theorem Counted.register (counted : Counted id db) (known : Known id db (k, item)) {docs : Table InvoiceId NotedAccount}
    (pending : ((db.items.find k).any fun i => i.status = .pending) = true) (first : carried db.docs item = 0)
    (untold : k ∉ db.told) (registered : collectItem clock row item db.docs = .ok docs) :
    Counted id { db with docs } ∧ ItemsKept id db { db with docs } ∧ carried docs item = 1 := by
  obtain ⟨i, found, waiting⟩ := (Option.any_eq_true _ _).mp pending
  rw [decide_eq_true_eq] at waiting
  obtain ⟨mine, invoice, reference, -, same⟩ := known.carried_eq found
  obtain ⟨one, others⟩ := collectItem_ok registered
    (reference ▸ counted.references k i found mine)
  rw [first, zero_add] at one
  -- The other items of the remittance are of other invoices.
  have apart : ∀ j i', db.items.find j = some i' → i'.remittanceId = id → j ≠ k →
      carried docs i' = carried db.docs i' := by
    intro j i' found' mine' other
    refine others i' fun sameInvoice => other ?_
    exact counted.distinct j i' k i found' mine' found mine (sameInvoice.trans invoice.symm)
  refine ⟨⟨fun j i' found' mine' => ?_, counted.references, counted.distinct, fun j mem => ?_⟩,
    ⟨fun _ known => known, fun _ mem => mem, fun p known' one' => ?_⟩, one⟩
  · by_cases this : j = k
    · subst this
      cases found.symm.trans found'
      rw [SepaItem.Settled, waiting]
      dsimp only
      rw [carried_congr docs (j := item) invoice reference, one]
    · rw [apart j i' found' mine' this]
      exact counted.items j i' found' mine'
  · obtain ⟨i', found', mine', none⟩ := counted.told j mem
    exact ⟨i', found', mine', (apart j i' found' mine' fun same => untold (same ▸ mem)).trans none⟩
  · obtain ⟨status, failureReason, found'⟩ := known'.2
    have this := known'.carried_eq found'
    by_cases atItem : p.1 = k
    · rw [atItem, found] at found'
      cases found'
      rw [← this.2.2.2.2, same, first] at one'
      cases one'
    · have kept := apart p.1 _ found' this.1 atItem
      rw [this.2.2.2.2, carried_congr docs (j := p.2) this.2.1 this.2.2.1] at kept
      exact kept.trans one'

end

/-! ### Steps -/

section

variable {id : RemittanceId} {db db' : ConfirmationDb} {phase : Confirming}
  {input : ConfirmationInput} {rest : Option Confirming}

theorem ItemsKept.refl (db : ConfirmationDb) : ItemsKept id db db :=
  ⟨fun _ known => known, fun _ mem => mem, fun _ _ one => one⟩

theorem SepaItem.Settled.le_one {i : SepaItem} {payments : ℕ} (settled : i.Settled payments) :
    payments ≤ 1 := by
  rw [Settled] at settled
  split at settled <;> omega

theorem Known.carried_le (known : Known id db p) (counted : Counted id db) : carried db.docs p.2 ≤ 1 := by
  obtain ⟨status, failureReason, found⟩ := known.2
  obtain ⟨mine, -, -, -, same⟩ := known.carried_eq found
  rw [← same]
  exact (counted.items _ _ found mine).le_one

theorem Counted.failed (counted : Counted id db) {k : SepaItemId} {item : SepaItem}
    (known : Known id db (k, item)) (none : carried db.docs item = 0)
    (failureReason : Option String) :
    Counted id { db with items := setItemStatus k .failed failureReason db.items } ∧
      ItemsKept id db { db with items := setItemStatus k .failed failureReason db.items } :=
  counted.setStatus known none

theorem Counted.collect (counted : Counted id db) {k : SepaItemId} {item : SepaItem}
    (known : Known id db (k, item)) (one : carried db.docs item = 1) :
    Counted id { db with items := setItemStatus k .collected none db.items } ∧
      ItemsKept id db { db with items := setItemStatus k .collected none db.items } :=
  counted.setStatus known one

theorem catchItem_sound (sound : phase.Sound id db) {reason : String} {phase' : Confirming}
    (caught : catchItem reason phase = some phase') : phase'.Sound id db := by
  cases phase with
  | register run k item =>
    cases caught
    exact sound
  | markCollected run k item =>
    cases caught
    exact ⟨sound.1, sound.2.1⟩
  | loop run =>
    rw [catchItem] at caught
    split at caught
    · rename_i k item rest cons
      obtain ⟨known, tail⟩ := sound.tail cons
      split at caught
      · cases caught
      · cases caught
        exact ⟨tail, known⟩
    · cases caught
  | _ => cases caught

/-- What a step does to the items and their payments, and what its call knows of them afterwards. -/
structure ConfirmationStep (id : RemittanceId) (db db' : ConfirmationDb) (rest : Option Confirming) :
    Prop where
  counted : Counted id db'
  sound : ∀ phase, rest = some phase → phase.Sound id db'
  kept : ItemsKept id db db'

theorem ConfirmationStep.quiet (counted : Counted id db)
    (sound : ∀ phase, rest = some phase → phase.Sound id db) : ConfirmationStep id db db rest :=
  ⟨counted, sound, .refl db⟩

theorem ConfirmationStep.rows (step : ConfirmationStep id db db' rest) (mandates : SepaMandates)
    (remittances : SepaRemittances) :
    ConfirmationStep id db { db' with mandates, remittances } rest := by
  have kept : ItemsKept id db' { db' with mandates, remittances } :=
    ⟨fun _ known => known, fun _ mem => mem, fun _ _ one => one⟩
  refine ⟨⟨step.counted.items, step.counted.references, step.counted.distinct, step.counted.told⟩,
    fun phase h => (step.sound phase h).mono kept, step.kept.known, step.kept.told, step.kept.carried⟩

variable (counted : Counted id db)
include counted

theorem claimConfirmation_step (h : claimConfirmation id clock row rejected db = (db', rest)) :
    ConfirmationStep id db db' rest := by
  rw [claimConfirmation] at h
  split at h
  · cases h
    exact (ConfirmationStep.quiet counted fun phase h => by cases h; trivial).rows db.mandates _
  · split at h
    · cases h
      exact .quiet counted fun phase h => by cases h; trivial
    · cases h
      exact .quiet counted fun phase h => by cases h

theorem resumeConfirmation_step {confirmedAt : Instant}
    (h : resumeConfirmation id clock row confirmedAt rejected db = (db', rest)) :
    ConfirmationStep id db db' rest := by
  rw [resumeConfirmation] at h
  split at h
  · cases h
    exact (ConfirmationStep.quiet counted fun phase h => by cases h; trivial).rows db.mandates _
  · cases h
    exact .quiet counted fun phase h => by cases h

theorem readItems_step
    (free : ((pendingItems id db.items).all fun (k, i) => !rejected.contains k || carried db.docs i = 0) = true) :
    ConfirmationStep id db
      { db with told :=
          ((pendingItems id db.items).map Prod.fst).filter rejected.contains ++ db.told }
      (some (.loop ⟨row, rejected, [], pendingItems id db.items⟩)) := by
  refine ⟨⟨counted.items, counted.references, counted.distinct, fun k mem => ?_⟩,
    fun phase h => ?_, fun _ known => known, fun _ mem => List.mem_append_right _ mem,
    fun _ _ one => one⟩
  · rcases List.mem_append.mp mem with mem | mem
    · obtain ⟨mem, told⟩ := List.mem_filter.mp mem
      obtain ⟨p, listed, rfl⟩ := List.mem_map.mp mem
      obtain ⟨found, mine, -⟩ := mem_pendingItems listed
      have none := List.all_eq_true.mp free p listed
      simp only [told, Bool.not_true, Bool.false_or, decide_eq_true_eq] at none
      exact ⟨p.2, found, mine, none⟩
    · exact counted.told k mem
  · cases h
    refine ⟨fun p mem => ?_, fun p mem told => List.mem_append_left _ ?_⟩
    · obtain ⟨found, mine, -⟩ := mem_pendingItems mem
      exact ⟨mine, p.2.status, p.2.failureReason, found⟩
    · exact List.mem_filter.mpr ⟨List.mem_map_of_mem mem, told⟩

theorem loop_step (sound : run.Sound id db)
    (h : nextConfirmation id db (.loop run) (.made clock) = some (db', rest)) : ConfirmationStep id db db' rest := by
  simp only [nextConfirmation] at h
  split at h
  · rename_i k item left cons
    obtain ⟨known, tail⟩ := sound.tail cons
    simp only [beginItem, Option.some.injEq] at h
    split at h
    · rename_i rejected
      -- An item that the bank rejected has no payment.
      obtain ⟨i, found, -, none⟩ := counted.told k
        (sound.told (k, item) (cons ▸ List.mem_cons_self) rejected)
      rw [(known.carried_eq found).2.2.2.2] at none
      cases h
      obtain ⟨counted', kept⟩ := counted.failed known none (some "Rechazado por el banco")
      exact ⟨counted', fun phase h => by cases h; exact tail.mono kept, kept⟩
    · split at h
      · rename_i already
        cases h
        have counts := alreadyCollected_le db.docs item
        have most : carried db.docs item ≤ 1 := known.carried_le counted
        have one : carried db.docs item = 1 := by omega
        exact .quiet counted fun phase h => by cases h; exact ⟨tail, known, one⟩
      · cases h
        exact .quiet counted fun phase h => by cases h; exact ⟨tail, known⟩
  · cases h
    exact (ConfirmationStep.quiet counted fun phase h => by cases h).rows _ _

theorem nextConfirmation_step (sound : phase.Sound id db) (free : findsUnsettled id db phase input = true)
    (h : nextConfirmation id db phase input = some (db', rest)) : ConfirmationStep id db db' rest := by
  cases input with
  | interrupted =>
    simp only [nextConfirmation, Option.some.injEq, Prod.mk.injEq] at h
    obtain ⟨rfl, rfl⟩ := h
    exact .quiet counted fun phase h => by cases h
  | throws reason =>
    simp only [nextConfirmation, Option.some.injEq, Prod.mk.injEq] at h
    obtain ⟨rfl, rfl⟩ := h
    exact .quiet counted fun phase h => catchItem_sound sound h
  | made clock =>
    cases phase with
    | claim row rejected => exact claimConfirmation_step counted (Option.some.inj h)
    | countPending row confirmedAt rejected =>
      simp only [nextConfirmation] at h
      split at h
      · cases h
        exact .quiet counted fun phase h => by cases h
      · cases h
        exact .quiet counted fun phase h => by cases h; trivial
    | resume row confirmedAt rejected => exact resumeConfirmation_step counted (Option.some.inj h)
    | readItems row rejected =>
      cases h
      exact readItems_step counted free
    | loop run => exact loop_step counted sound h
    | register run k item =>
      simp only [findsUnsettled, Bool.and_eq_true, decide_eq_true_eq, Bool.not_eq_true',
        List.contains_eq_mem, decide_eq_false_iff_not] at free
      simp only [nextConfirmation] at h
      split at h
      · cases h
        exact .quiet counted fun phase h => by cases h; exact sound
      · rename_i registered
        cases h
        obtain ⟨counted', kept, one⟩ :=
          counted.register sound.2 free.1.1 free.1.2 free.2 registered
        exact ⟨counted', fun phase h => by
          cases h
          exact ⟨sound.1.mono kept, kept.known _ sound.2, one⟩, kept⟩
    | markCollected run k item =>
      cases h
      obtain ⟨counted', kept⟩ := counted.collect sound.2.1 sound.2.2
      refine ⟨counted', fun phase h => ?_, kept⟩
      cases h
      have sound' := sound.1.mono kept
      exact ⟨sound'.known, sound'.told⟩
    | markFailed run k item reason =>
      cases h
      simp only [findsUnsettled, decide_eq_true_eq] at free
      obtain ⟨counted', kept⟩ := counted.failed sound.2 free (some reason)
      exact ⟨counted', fun phase h => by cases h; exact sound.1.mono kept, kept⟩

end

end StorageOS
