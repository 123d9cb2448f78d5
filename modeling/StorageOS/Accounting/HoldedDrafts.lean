import StorageOS.Accounting.Holded

/-! The drafts of a tenant that issues in Holded: what is done to them, when an invoice agrees with its
documents, and what each request knows. -/

namespace StorageOS

open Transition Processes

variable {cfg : HoldedConfig} {reg : Registry} {sha : Sha256} {db db' : HoldedDb} {call : HoldedCall}
  {rest : Option HoldedCall} {clock : Clock} {answer : HoldedAnswer} {input : HoldedInput} {id k : InvoiceId}
  {r : HoldedRecord} {v : HoldedView}

/-! ### Requests -/

/-- What happens to the drafts of a tenant in the mode of Holded. -/
inductive HoldedDraftRequest
  | issue (args : IssueArgs)
  | update (args : UpdateArgs)
  | cancel (args : IssueArgs)
  | linkHoldedCreditNote (args : IssueArgs) (documentId : String)
  /-- The tenant makes a credit note in Holded. -/
  | creditNote (credit : HoldedRecord)

/-- The reads of a request. An annulment of an invoice that is no draft is another request. -/
def enterHoldedDraft (reg : Registry) (db : HoldedDb) : HoldedDraftRequest → Option HoldedCall
  | .issue args =>
    (beginIssue reg db.db { args with holdedDocument := none } .holded).toOption.bind HoldedCall.ofRequest
  | .update args =>
    match beginUpdate reg db.db args with
    | .ok (.update args existing) => some (.updating args existing)
    | _ => none
  | .cancel args =>
    match findOrThrow reg db.db args.tenantId args.invoiceId args.facilityScope with
    | .ok existing =>
      if existing.kind = .depositReceipt || existing.status ≠ .draft then none else some (.cancelling args)
    | .error _ => none
  | .linkHoldedCreditNote args documentId =>
    match findOrThrow reg db.db args.tenantId args.invoiceId args.facilityScope with
    | .ok existing =>
      if existing.status ≠ .draft || existing.holdedSyncState ≠ some .awaitingHolded then none
      else some (.linking args documentId)
    | .error _ => none
  | .creditNote credit => some (.making credit)

def holdedDraftSystem (cfg : HoldedConfig) (reg : Registry) (sha : Sha256) :
    Processes.System HoldedDb HoldedCall HoldedDraftRequest HoldedInput where
  enter := enterHoldedDraft reg
  next := nextHolded cfg reg sha

/-! ### Agreement -/

def HoldedRecord.saysLines (cfg : HoldedConfig) (r : HoldedRecord) (items : List InvoiceItem) (total : ℤ) :
    Bool :=
  buildLines cfg.taxes items (total < 0) = some r.lines && total = r.total

def HoldedRecord.isOf (r : HoldedRecord) (id : InvoiceId) (documentId : Option String) : Bool :=
  r.invoiceId = some id || documentId = some r.documentId

structure HoldedRecord.Agrees (cfg : HoldedConfig) (r : HoldedRecord) (v : HoldedView) : Prop where
  lines : r.saysLines cfg v.items v.total = true
  date : v.issueDate = some r.date
  live : v.cancelled = false
  own : v.ownerId = none

/-- The invoices agree with their documents, and a document that is linked exists. -/
structure HoldedAgree (cfg : HoldedConfig) (db : HoldedDb) : Prop where
  agrees : ∀ r ∈ db.documents, ∀ id v, db.db.holded.find id = some v → r.isOf id v.documentId = true →
    r.Agrees cfg v
  linked : ∀ id v, db.db.holded.find id = some v → ∀ d, v.documentId = some d → d ∈ db.documentIds

def holdedUntouched (cfg : HoldedConfig) (db : HoldedDb) : HoldedCall → HoldedInput → Bool
  -- An edit leaves the lines that its documents say.
  | .updating args _, .proceed .. => (db.db.accounts.find args.invoiceId).all fun a =>
    match updatedItems args.input with
    | .ok (some (totals, items)) => db.documents.all fun r =>
      !r.isOf args.invoiceId a.invoice.holdedDocumentId || r.saysLines cfg items totals.total
    | _ => true
  -- A draft that is annulled has no document.
  | .cancelling args, .proceed .. => (db.db.accounts.find args.invoiceId).all fun a =>
    a.invoice.status ≠ .draft ||
      db.documents.all fun r => !r.isOf args.invoiceId a.invoice.holdedDocumentId
  -- The draft is still what was read when Holded creates its document.
  | .creating task invoice lines, .proceed clock answer => answer.created.all fun documentId =>
    (db.db.accounts.find task.invoiceId).all fun a =>
      (task.document clock invoice lines documentId).saysLines cfg a.invoice.items a.invoice.total &&
        a.invoice.issueDate = some (invoice.issueDate.getD (utcDay clock.now)) &&
        a.invoice.status ≠ .cancelled
  -- The date written is the one that was sent, and a credit note linked says what the invoice does.
  | .issuing args existing (some doc), .proceed clock _ =>
    (db.db.accounts.find args.invoiceId).all fun a => db.documents.all fun r =>
      let date := existing.issueDate.getD clock.today
      if r.invoiceId = some args.invoiceId then date = r.date
      else r.documentId ≠ doc.documentId ||
        (r.saysLines cfg a.invoice.items a.invoice.total && date = r.date)
  | _, _ => true

/-! ### Writes -/

variable {g : HoldedView → HoldedView}

variable (agree : HoldedAgree cfg db)
include agree

theorem HoldedAgree.write (rows : db'.db.holded = db.db.holded.modify id g)
    (documents : db'.documents = db.documents)
    (linked : ∀ v, db.db.holded.find id = some v → ∀ d, (g v).documentId = some d → d ∈ db.documentIds)
    (own : ∀ v, db.db.holded.find id = some v → ∀ r ∈ db.documents,
      r.isOf id (g v).documentId = true → r.Agrees cfg (g v)) : HoldedAgree cfg db' where
  agrees r mem k w found of_ := by
    rw [rows] at found
    rw [documents] at mem
    rcases Table.find_modify_cases found with ⟨-, there⟩ | ⟨rfl, v, there, rfl⟩
    · exact agree.agrees r mem k w there of_
    · exact own v there r mem of_
  linked k w found d has := by
    rw [rows] at found
    rw [HoldedDb.documentIds, documents]
    rcases Table.find_modify_cases found with ⟨-, there⟩ | ⟨rfl, v, there, rfl⟩
    · exact agree.linked k w there d has
    · exact linked v there d has

theorem HoldedAgree.write_same (rows : db'.db.holded = db.db.holded.modify id g)
    (documents : db'.documents = db.documents) (document : ∀ v, (g v).documentId = v.documentId)
    (own : ∀ v, db.db.holded.find id = some v → ∀ r ∈ db.documents, r.isOf id v.documentId = true →
      r.Agrees cfg v → r.Agrees cfg (g v)) : HoldedAgree cfg db' := by
  refine agree.write rows documents (fun v found d has => ?_) fun v found r mem of_ => ?_
  · rw [document] at has
    exact agree.linked id v found d has
  · rw [document] at of_
    exact own v found r mem of_ (agree.agrees r mem id v found of_)

theorem HoldedAgree.setSyncState (state : Option HoldedSyncState) : HoldedAgree cfg (db.setSyncState id state) := by
  have rows : (db.setSyncState id state).db.holded = db.db.holded.modify id fun v =>
      { v with syncState := state } :=
    holded_modifyAccount fun _ => rfl
  exact agree.write_same rows rfl (fun _ => rfl) fun v _ r _ _ agrees =>
    ⟨agrees.lines, agrees.date, agrees.live, agrees.own⟩

theorem HoldedAgree.create (fresh : r.documentId ∉ db.documentIds)
    (own : ∀ id v, r.invoiceId = some id → db.db.holded.find id = some v → r.Agrees cfg v) :
    HoldedAgree cfg (db.create r) where
  agrees r' mem k w found of_ := by
    rcases List.mem_cons.mp mem with rfl | mem
    · rw [HoldedRecord.isOf, Bool.or_eq_true, decide_eq_true_eq, decide_eq_true_eq] at of_
      rcases of_ with made | linked
      · exact own k w made found
      · exact (fresh (agree.linked k w found _ linked)).elim
    · exact agree.agrees r' mem k w found of_
  linked k w found d has := List.mem_cons_of_mem _ (agree.linked k w found d has)

omit agree

/-! ### Requests under way -/

def HoldedDb.ownInvoice (db : HoldedDb) (id : InvoiceId) : Prop :=
  ∀ v, db.db.holded.find id = some v → v.ownerId = none

def HoldedDb.ownersInvoice (db : HoldedDb) (id : InvoiceId) : Prop :=
  ∀ v, db.db.holded.find id = some v → v.ownerId ≠ none

/-- An id that came from Holded, of a document made for the invoice. -/
def HoldedDb.madeFor (db : HoldedDb) (id : InvoiceId) (documentId : Option String) : Prop :=
  ∀ d, documentId = some d → d ∈ db.documentIds ∧
    ∀ r ∈ db.documents, r.documentId = d → r.invoiceId = some id

def HoldedDb.inHolded (db : HoldedDb) (documentId : Option String) : Prop :=
  ∀ d, documentId = some d → d ∈ db.documentIds

def HoldedTask.ownIssue (db : HoldedDb) : HoldedTask → Prop
  | .issue args _ => db.ownInvoice args.invoiceId
  | .push .. => False

def HoldedCall.Drafts (db : HoldedDb) : HoldedCall → Prop
  | .reserving args _ | .reading args _ _ => db.ownInvoice args.invoiceId
  | .contacting task _ | .creating task _ _ => task.ownIssue db
  | .saving task documentId => task.ownIssue db ∧ db.madeFor task.invoiceId documentId
  | .approving task documentId | .approved task documentId => task.ownIssue db ∧ db.inHolded documentId
  | .numbering args _ documentId => db.ownInvoice args.invoiceId ∧ db.inHolded documentId
  | .issuing args _ (some doc) => db.ownInvoice args.invoiceId ∧ doc.documentId ∈ db.documentIds
  | .issuing args _ none => db.ownersInvoice args.invoiceId
  | .linked _ doc => doc.documentId ∈ db.documentIds
  | .releasing _ | .awaiting .. | .linking .. | .updating .. | .cancelling .. | .making _ => True
  | _ => False

structure HoldedStep (db db' : HoldedDb) : Prop where
  owner : ∀ id w, db'.db.holded.find id = some w → ∃ v, db.db.holded.find id = some v ∧ w.ownerId = v.ownerId
  documents : ∀ r ∈ db.documents, r ∈ db'.documents
  fresh : ∀ r ∈ db'.documents, r ∈ db.documents ∨ r.documentId ∉ db.documentIds

theorem HoldedStep.refl (db : HoldedDb) : HoldedStep db db :=
  ⟨fun _ w found => ⟨w, found, rfl⟩, fun _ mem => mem, fun _ mem => .inl mem⟩

theorem HoldedStep.of_write (rows : db'.db.holded = db.db.holded.modify id g) (documents : db'.documents = db.documents)
    (owner : ∀ v, (g v).ownerId = v.ownerId) :
    HoldedStep db db' where
  owner k w found := by
    rw [rows] at found
    rcases Table.find_modify_cases found with ⟨-, there⟩ | ⟨rfl, v, there, rfl⟩
    · exact ⟨w, there, rfl⟩
    · exact ⟨v, there, owner v⟩
  documents r mem := by
    rw [documents]
    exact mem
  fresh r mem := by
    rw [documents] at mem
    exact .inl mem

theorem HoldedStep.of_create (fresh : r.documentId ∉ db.documentIds) : HoldedStep db (db.create r) where
  owner _ w found := ⟨w, found, rfl⟩
  documents _ mem := List.mem_cons_of_mem _ mem
  fresh r' mem := by
    rcases List.mem_cons.mp mem with rfl | mem
    · exact .inr fresh
    · exact .inl mem

section

variable (step : HoldedStep db db')
include step

theorem HoldedStep.ownInvoice (own : db.ownInvoice id) : db'.ownInvoice id := by
  intro w found
  obtain ⟨v, there, same⟩ := step.owner id w found
  rw [same]
  exact own v there

theorem HoldedStep.ownersInvoice (owners : db.ownersInvoice id) : db'.ownersInvoice id := by
  intro w found
  obtain ⟨v, there, same⟩ := step.owner id w found
  rw [same]
  exact owners v there

theorem HoldedStep.documentId {d : String} (mem : d ∈ db.documentIds) : d ∈ db'.documentIds := by
  obtain ⟨r, stored, rfl⟩ := List.mem_map.mp mem
  exact List.mem_map_of_mem (step.documents r stored)

theorem HoldedStep.inHolded {documentId : Option String} (known : db.inHolded documentId) :
    db'.inHolded documentId :=
  fun d has => step.documentId (known d has)

theorem HoldedStep.madeFor {documentId : Option String} (known : db.madeFor id documentId) :
    db'.madeFor id documentId := by
  intro d has
  obtain ⟨mem, own⟩ := known d has
  refine ⟨step.documentId mem, fun r stored same => ?_⟩
  rcases step.fresh r stored with old | new
  · exact own r old same
  · rw [same] at new
    exact (new mem).elim

theorem HoldedStep.ownIssue {task : HoldedTask} (own : task.ownIssue db) : task.ownIssue db' := by
  cases task with
  | issue => exact step.ownInvoice own
  | push => exact own.elim

theorem HoldedStep.drafts (known : call.Drafts db) : call.Drafts db' := by
  cases call with
  | reserving | reading => exact step.ownInvoice known
  | contacting | creating => exact step.ownIssue known
  | saving => exact ⟨step.ownIssue known.1, step.madeFor known.2⟩
  | approving | approved => exact ⟨step.ownIssue known.1, step.inHolded known.2⟩
  | numbering => exact ⟨step.ownInvoice known.1, step.inHolded known.2⟩
  | issuing args existing fromHolded =>
    cases fromHolded with
    | none => exact step.ownersInvoice known
    | some doc => exact ⟨step.ownInvoice known.1, step.documentId known.2⟩
  | linked => exact step.documentId known
  | pushing | claiming | paying | claimingPayment | addingPayment | releasingPayment | markingPayment
  | annulling | claimingAnnulment | sendingAnnulment | releasingAnnulment | reviewingInvoice
  | reviewingPayment => exact known.elim
  | _ => trivial

end

end StorageOS
