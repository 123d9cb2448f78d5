import StorageOS.Lib.Processes
import StorageOS.Billing.FiscalSteps

/-! The copies of invoices and payments in Holded, and the invoices that Holded issues. A call to Holded can be
answered, rejected or left without an answer; each read, transaction and call is one step. -/

namespace StorageOS

/-! ### What Holded keeps -/

structure HoldedLine where
  name : String
  units : ℚ
  price : ℚ
  taxes : List String
  deriving DecidableEq

/-- A document in Holded: the invoice it was made for, unless the tenant made it there by hand, and the total
of that invoice when its lines were read. -/
structure HoldedRecord where
  documentId : String
  invoiceId : Option InvoiceId
  lines : List HoldedLine
  total : ℤ
  date : Date

structure HoldedTax where
  key : String
  amount : ℚ

structure HoldedConfig where
  taxes : List HoldedTax
  creditNoteSeriesId : Option String

/-- The answer to a call: a 2xx with its text (the id of a new document, or a number), whose body the timeout
may cut off; an error, with nothing done; or none, with the call carried out or not. -/
inductive HoldedAnswer
  | ok (text : String) (body : Bool)
  | error
  | lost (done : Option String)

def HoldedAnswer.created : HoldedAnswer → Option String
  | .ok id _ => some id
  | .error => none
  | .lost done => done

/-- What the client reads in an answer: `json()` of a body cut off gives `{}`. -/
def HoldedAnswer.read (text : String) (body : Bool) : Option String := if body then some text else none

def HoldedTax.mentions (t : HoldedTax) (part : String) : Bool :=
  part.toList <:+: t.key.toList.map Char.toLower

def HoldedTax.startsWith (t : HoldedTax) (start : String) : Bool := start.toList.isPrefixOf t.key.toList

/-- `taxKeyFor`: it throws without a sales tax of the rate. -/
def taxKeyFor (taxes : List HoldedTax) (rate : ℚ) (category : String) : Option String :=
  let sales := taxes.filter fun t => t.startsWith "s_" && |t.amount - rate| < 1 / 1000
  let wanted := match category.toList.head? with
    | some 'E' => some "exen"
    | some 'N' => some "suje"
    | _ => none
  let pick := (wanted.bind fun w => sales.find? fun t => t.mentions w) <|>
    (sales.find? fun t => t.startsWith "s_iva") <|> (sales.find? fun t => !t.startsWith "s_rec") <|>
    sales.head?
  pick.map HoldedTax.key

/-- `buildLines`: in a credit note the prices are positive. -/
def buildLines (taxes : List HoldedTax) (items : List InvoiceItem) (isCreditNote : Bool) :
    Option (List HoldedLine) :=
  items.mapM fun it => (taxKeyFor taxes it.taxRate it.taxCategory).map fun key =>
    ⟨it.description, it.quantity, if isCreditNote then -it.unitPrice else it.unitPrice, [key]⟩

def Invoice.isCreditNote (i : Invoice) : Bool := i.total < 0

/-! ### Rows -/

/-- The columns of a payment that its copy in Holded reads and writes. -/
structure HoldedPayment where
  invoiceId : InvoiceId
  status : PaymentStatus
  methodType : PaymentMethodType
  holdedSyncedAt : Option Instant
  holdedSyncStartedAt : Option Instant
  deriving DecidableEq

/-- The rows of the application, the invoices with a `holdedCancelledAt`, and the documents and payments that
Holded has created. -/
structure HoldedDb where
  db : Db
  payments : Table PaymentId HoldedPayment
  cancelledAt : List InvoiceId
  documents : List HoldedRecord
  registered : List PaymentId

def HoldedDb.opening (db : Db) (payments : Table PaymentId HoldedPayment) : HoldedDb :=
  ⟨db, payments, [], [], []⟩

def HoldedDb.modifyInvoice (db : HoldedDb) (id : InvoiceId) (f : Invoice → Invoice) : HoldedDb :=
  { db with db := db.db.modifyAccount id fun a => { a with invoice := f a.invoice } }

def HoldedDb.setSyncState (db : HoldedDb) (id : InvoiceId) (state : Option HoldedSyncState) : HoldedDb :=
  db.modifyInvoice id fun i => { i with holdedSyncState := state }

def HoldedDb.documentIds (db : HoldedDb) : List String := db.documents.map HoldedRecord.documentId

def HoldedPayment.pending (invoiceId : InvoiceId) (p : HoldedPayment) : Bool :=
  p.invoiceId = invoiceId && p.status = .succeeded && p.holdedSyncedAt.isNone &&
    p.holdedSyncStartedAt.isNone && p.methodType ≠ .creditNote && p.methodType ≠ .withholding

/-! ### Requests -/

/-- What a document is made for: an issue in Holded, or a copy, after which the payments of the invoice are
sent, or are sent in any case. -/
inductive HoldedTask
  | issue (args : IssueArgs) (existing : Invoice)
  | push (tenantId : TenantId) (invoiceId : InvoiceId) (always : Bool)

def HoldedTask.invoiceId : HoldedTask → InvoiceId
  | .issue args _ => args.invoiceId
  | .push _ id _ => id

/-- The resolution of what is to be reviewed by hand. -/
inductive HoldedReview
  | retry
  | alreadyInHolded (documentId : Option String)
  | reviewed

/-- What a request does next: a read, a transaction or a call to Holded. -/
inductive HoldedCall
  | awaiting (args : IssueArgs) (existing : Invoice)
  | reserving (args : IssueArgs) (existing : Invoice)
  /-- The read of `issueDocument`, after a transaction that reserved the invoice or had no need to. -/
  | reading (args : IssueArgs) (existing : Invoice) (reserved : Bool)
  | contacting (task : HoldedTask) (invoice : Invoice)
  | creating (task : HoldedTask) (invoice : Invoice) (lines : List HoldedLine)
  | releasing (invoiceId : InvoiceId)
  | saving (task : HoldedTask) (documentId : Option String)
  | approving (task : HoldedTask) (documentId : Option String)
  | approved (task : HoldedTask) (documentId : Option String)
  | numbering (args : IssueArgs) (existing : Invoice) (documentId : Option String)
  | issuing (args : IssueArgs) (existing : Invoice) (fromHolded : Option HoldedDocument)
  | linking (args : IssueArgs) (documentId : String)
  | linked (args : IssueArgs) (doc : HoldedDocument)
  | updating (args : UpdateArgs) (existing : Invoice)
  | cancelling (args : IssueArgs)
  /-- The tenant makes a credit note in Holded. -/
  | making (credit : HoldedRecord)
  | pushing (tenantId : TenantId) (invoiceId : InvoiceId) (always : Bool)
  | claiming (tenantId : TenantId) (invoiceId : InvoiceId) (always : Bool) (invoice : Invoice)
  | paying (tenantId : TenantId) (invoiceId : InvoiceId)
  | claimingPayment (payments : List PaymentId)
  | addingPayment (payment : PaymentId) (payments : List PaymentId)
  | releasingPayment (payment : PaymentId)
  | markingPayment (payment : PaymentId) (payments : List PaymentId)
  | annulling (tenantId : TenantId) (invoiceId : InvoiceId)
  | claimingAnnulment (invoiceId : InvoiceId)
  | sendingAnnulment (invoiceId : InvoiceId)
  | releasingAnnulment (invoiceId : InvoiceId)
  | reviewingInvoice (tenantId : TenantId) (invoiceId : InvoiceId) (review : HoldedReview)
  | reviewingPayment (payment : PaymentId) (review : HoldedReview)

/-- The calls of a request of `issue`. -/
def HoldedCall.ofRequest : Request → Option HoldedCall
  | .awaitHoldedCreditNote args existing => some (.awaiting args existing)
  | .issueInHolded args existing => some (.reserving args existing)
  | .issue args existing fromHolded => some (.issuing args existing fromHolded)
  | _ => none

/-- A step, with the time and what Holded answers to a call, or a statement that throws. -/
inductive HoldedInput
  | proceed (clock : Clock) (answer : HoldedAnswer)
  | throws

def HoldedCall.fits (db : HoldedDb) (answer : HoldedAnswer) : HoldedCall → Bool
  | .creating .. => answer.created.all fun id => id ∉ db.documentIds
  | .making credit => credit.invoiceId = none && credit.documentId ∉ db.documentIds
  | _ => true

/-! ### Issuing -/

/-- A transaction that may fail, and what the request does after it. -/
def HoldedDb.commit (db : HoldedDb) (made : Outcome Db) (rest : Option HoldedCall) :
    HoldedDb × Option HoldedCall :=
  match made with
  | .ok written => ({ db with db := written }, rest)
  | .error _ => (db, none)

/-- Whether the transaction of `issueInHolded` reserves the invoice. -/
def Db.unsent (db : Db) (tenantId : TenantId) (id : InvoiceId) : Bool :=
  (db.findAccount tenantId id).all fun a => a.invoice.holdedDocumentId.isNone

/-- What `issueDocument` does with the invoice that it reads. -/
def issueDocument (args : IssueArgs) (existing invoice : Invoice) : HoldedCall :=
  match invoice.holdedDocumentId with
  | none => .contacting (.issue args existing) invoice
  | some documentId =>
    if invoice.holdedSyncState = some .numbering then .numbering args existing (some documentId)
    else .approving (.issue args existing) (some documentId)

def utcDay (now : Instant) : Date := now / 86400000

def HoldedTask.document (task : HoldedTask) (clock : Clock) (invoice : Invoice) (lines : List HoldedLine)
    (documentId : String) : HoldedRecord where
  documentId
  invoiceId := some task.invoiceId
  lines
  total := invoice.total
  date := invoice.issueDate.getD (utcDay clock.now)

def HoldedDb.create (db : HoldedDb) (credit : HoldedRecord) : HoldedDb :=
  { db with documents := credit :: db.documents }

/-- The id is saved and the document left to approve; an id that is `undefined` is not written. -/
def Invoice.saveDocument (documentId : Option String) (i : Invoice) : Invoice :=
  { i with
    holdedDocumentId := documentId <|> i.holdedDocumentId
    holdedSyncState := some .approving }

/-- What follows the approval of a document: its number, or the payments of the invoice. -/
def HoldedTask.afterApproval (db : HoldedDb) (documentId : Option String) :
    HoldedTask → HoldedDb × Option HoldedCall
  | .issue args existing =>
    (db.setSyncState args.invoiceId (some .numbering), some (.numbering args existing documentId))
  | .push tenantId id _ => (db.setSyncState id none, some (.paying tenantId id))

def Invoice.cancelDraft (clock : Clock) (i : Invoice) : Invoice :=
  if i.status = .draft then { i with status := .cancelled, cancelledAt := some clock.now } else i

/-! ### Copies -/

/-- After a copy that was made before or was not made, the payments are sent. -/
def pushed (tenantId : TenantId) (id : InvoiceId) (always created : Bool) : Option HoldedCall :=
  if created || always then some (.paying tenantId id) else none

/-- What `pushDocument` does with the invoice that it reads. -/
def pushDocument (cfg : HoldedConfig) (tenantId : TenantId) (id : InvoiceId) (always : Bool) (i : Invoice) :
    Option HoldedCall :=
  if i.deletedAt.isSome || i.ownerId.isSome then pushed tenantId id always false
  else
    match i.holdedDocumentId with
    | some documentId =>
      if i.holdedSyncState = some .approving then
        some (.approving (.push tenantId id always) (some documentId))
      else pushed tenantId id always true
    | none =>
      if i.status = .draft || i.status = .cancelled || i.kind = .depositReceipt ||
          i.holdedSyncState.isSome then pushed tenantId id always false
      else if i.isCreditNote && cfg.creditNoteSeriesId.isNone then none
      else some (.claiming tenantId id always i)

def Invoice.unclaimed (i : Invoice) : Bool := i.holdedDocumentId.isNone && i.holdedSyncState.isNone

/-- The payments that `pushPayments` reads. -/
def HoldedDb.pendingPayments (db : HoldedDb) (tenantId : TenantId) (id : InvoiceId) : List PaymentId :=
  match db.db.findAccount tenantId id with
  | none => []
  | some a =>
    if a.invoice.holdedDocumentId.isNone || a.invoice.holdedSyncState.isSome || a.invoice.total ≤ 0 then []
    else (db.payments.rows.filter fun q => q.2.pending id).map Prod.fst

/-- An invoice that is annulled, or replaced by a substitution, is to be cancelled in Holded. -/
def HoldedDb.toAnnul (db : HoldedDb) (tenantId : TenantId) (id : InvoiceId) : Bool :=
  (db.db.findAccount tenantId id).any fun a =>
    let replaced := a.invoice.status = .rectified && db.db.accounts.rows.any fun (_, b) =>
      b.invoice.rectifiesInvoiceId = some id && b.invoice.correctionMethod = some .bySubstitution &&
        b.invoice.status ≠ .draft && b.invoice.status ≠ .cancelled
    a.invoice.holdedDocumentId.isSome && id ∉ db.cancelledAt &&
      (a.invoice.status = .cancelled || replaced) && 0 ≤ a.invoice.total

/-! ### Reviews -/

/-- `resolveInvoiceReview` of an invoice left unconfirmed. -/
def Invoice.resolveReview (review : HoldedReview) (i : Invoice) : Invoice :=
  if i.holdedSyncState = some .creating then
    match review with
    | .retry => { i with holdedSyncState := none }
    | .alreadyInHolded (some documentId) =>
      { i with holdedDocumentId := some documentId, holdedSyncState := none }
    | .alreadyInHolded none | .reviewed => i
  else i

/-- `resolvePaymentReview`; a payment that is only marked as reviewed keeps these columns. -/
def HoldedPayment.resolveReview (review : HoldedReview) (now : Instant) (p : HoldedPayment) :
    HoldedPayment :=
  match review with
  | .reviewed => p
  | .retry =>
    if p.holdedSyncedAt.isNone && p.holdedSyncStartedAt.isSome then { p with holdedSyncStartedAt := none }
    else p
  | .alreadyInHolded _ =>
    if p.holdedSyncedAt.isNone && p.holdedSyncStartedAt.isSome then
      { p with holdedSyncedAt := some now, holdedSyncStartedAt := none }
    else p

/-! ### Steps -/

/-- The next step of a request. An error of Holded, or no answer, is thrown. -/
def stepHolded (cfg : HoldedConfig) (reg : Registry) (sha : Sha256) (db : HoldedDb) (clock : Clock)
    (answer : HoldedAnswer) : HoldedCall → HoldedDb × Option HoldedCall
  | .awaiting args existing =>
    db.commit (awaitHoldedCreditNoteTx args.tenantId args.invoiceId existing db.db) none
  | .reserving args existing =>
    db.commit (issueInHoldedTx reg clock args.tenantId args.invoiceId existing db.db)
      (some (.reading args existing (db.db.unsent args.tenantId args.invoiceId)))
  | .reading args existing _ =>
    (db, (db.db.findAccount args.tenantId args.invoiceId).map fun a =>
      issueDocument args existing a.invoice)
  | .contacting task invoice =>
    match answer, buildLines cfg.taxes invoice.items invoice.isCreditNote with
    | .ok _ _, some lines => (db, some (.creating task invoice lines))
    | _, _ => (db, some (.releasing task.invoiceId))
  | .creating task invoice lines =>
    match answer with
    | .ok id body =>
      (db.create (task.document clock invoice lines id), some (.saving task (HoldedAnswer.read id body)))
    | .error => (db, some (.releasing task.invoiceId))
    | .lost (some id) => (db.create (task.document clock invoice lines id), none)
    | .lost none => (db, none)
  | .releasing id => (db.setSyncState id none, none)
  | .saving task documentId =>
    (db.modifyInvoice task.invoiceId (Invoice.saveDocument documentId), some (.approving task documentId))
  | .approving task documentId =>
    match documentId, answer with
    | some _, .ok _ _ => (db, some (.approved task documentId))
    -- There is no document `undefined` to approve.
    | _, _ => (db, none)
  | .approved task documentId => task.afterApproval db documentId
  | .numbering args existing documentId =>
    match documentId, answer with
    | some id, .ok number true =>
      (db, if number = "" then none else some (.issuing args existing (some ⟨id, number⟩)))
    | _, _ => (db, none)
  | .issuing args existing fromHolded =>
    db.commit (issueTx reg sha clock args.tenantId args.invoiceId existing args.settleZero fromHolded db.db)
      none
  | .linking args documentId =>
    match answer with
    | .ok number true =>
      (db, if documentId ∉ db.documentIds || number = "" then none
        else some (.linked args ⟨documentId, number⟩))
    | _ => (db, none)
  | .linked args doc =>
    (db, (beginIssue reg db.db { args with holdedDocument := some doc } .holded).toOption.bind
      HoldedCall.ofRequest)
  | .updating args existing =>
    db.commit (updateTx clock args.tenantId args.invoiceId existing args.input db.db) none
  | .cancelling args => (db.modifyInvoice args.invoiceId (Invoice.cancelDraft clock), none)
  | .making credit => (db.create credit, none)
  | .pushing tenantId id always =>
    (db, (db.db.findAccount tenantId id).bind fun a => pushDocument cfg tenantId id always a.invoice)
  | .claiming tenantId id always invoice =>
    if (db.db.findAccount tenantId id).any fun a => a.invoice.unclaimed then
      (db.setSyncState id (some .creating), some (.contacting (.push tenantId id always) invoice))
    else (db, pushed tenantId id always false)
  | .paying tenantId id => (db, some (.claimingPayment (db.pendingPayments tenantId id)))
  | .claimingPayment [] => (db, none)
  | .claimingPayment (p :: rest) =>
    if (db.payments.find p).any fun row => row.holdedSyncedAt.isNone && row.holdedSyncStartedAt.isNone then
      ({ db with payments := db.payments.modify p fun row =>
          { row with holdedSyncStartedAt := some clock.now } }, some (.addingPayment p rest))
    else (db, some (.claimingPayment rest))
  | .addingPayment p rest =>
    match answer with
    | .ok _ _ => ({ db with registered := p :: db.registered }, some (.markingPayment p rest))
    | .error => (db, some (.releasingPayment p))
    | .lost (some _) => ({ db with registered := p :: db.registered }, none)
    | .lost none => (db, none)
  | .releasingPayment p =>
    ({ db with payments := db.payments.modify p fun row => { row with holdedSyncStartedAt := none } }, none)
  | .markingPayment p rest =>
    ({ db with payments := db.payments.modify p fun row =>
        { row with holdedSyncedAt := some clock.now, holdedSyncStartedAt := none } },
      some (.claimingPayment rest))
  | .annulling tenantId id => (db, if db.toAnnul tenantId id then some (.claimingAnnulment id) else none)
  | .claimingAnnulment id =>
    if id ∈ db.cancelledAt then (db, none)
    else ({ db with cancelledAt := id :: db.cancelledAt }, some (.sendingAnnulment id))
  | .sendingAnnulment id =>
    match answer with
    | .ok _ _ => (db, none)
    | _ => (db, some (.releasingAnnulment id))
  | .releasingAnnulment id => ({ db with cancelledAt := db.cancelledAt.erase id }, none)
  | .reviewingInvoice tenantId id review =>
    (if (db.db.findAccount tenantId id).isSome then db.modifyInvoice id (Invoice.resolveReview review)
      else db, none)
  | .reviewingPayment p review =>
    ({ db with payments := db.payments.modify p (HoldedPayment.resolveReview review clock.now) }, none)

def nextHolded (cfg : HoldedConfig) (reg : Registry) (sha : Sha256) (db : HoldedDb) (call : HoldedCall) :
    HoldedInput → Option (HoldedDb × Option HoldedCall)
  | .proceed clock answer =>
    if call.fits db answer then some (stepHolded cfg reg sha db clock answer call) else none
  | .throws => some (db, none)

/-! ### A draft and its payment -/

def storageDraft : Invoice :=
  { draftInvoice 1 0 2100 12100 with items := [⟨"Trastero", 1, 100, 21, "S1", 2100, 12100, none, 0⟩] }

def storageDb : HoldedDb :=
  .opening ⟨Table.empty.push ⟨storageDraft, .empty⟩, Table.empty.push (newSeries 1 "FA" true)⟩
    (Table.empty.push ⟨0, .succeeded, .cash, none, none⟩)

def generalRate : HoldedConfig := ⟨[⟨"s_iva_21", 21⟩], some "rectificativas"⟩

def answeredAt (day : Date) (answer : HoldedAnswer) : HoldedInput := .proceed (noon day) answer

/-! The columns of an invoice that its document in Holded depends on, and what each transaction does to
them. -/

/-- The columns of an invoice that are read for its document, or tell where it is. -/
structure HoldedView where
  items : List InvoiceItem
  total : ℤ
  issueDate : Option Date
  cancelled : Bool
  ownerId : Option OwnerId
  documentId : Option String
  syncState : Option HoldedSyncState

def Account.holded (a : Account) : HoldedView where
  items := a.invoice.items
  total := a.invoice.total
  issueDate := a.invoice.issueDate
  cancelled := a.invoice.status = .cancelled
  ownerId := a.invoice.ownerId
  documentId := a.invoice.holdedDocumentId
  syncState := a.invoice.holdedSyncState

abbrev HoldedRows := Table InvoiceId HoldedView

def Db.holded (db : Db) : HoldedRows := db.accounts.view Account.holded

def HoldedView.issue (fromHolded : Option HoldedDocument) (issueDate : Date) (v : HoldedView) : HoldedView :=
  { v with
    issueDate := some issueDate
    cancelled := false
    documentId := fromHolded.map HoldedDocument.documentId <|> v.documentId
    syncState := if fromHolded.isSome then none else v.syncState }

/-- The reservation of `issueInHolded`. -/
def HoldedView.reserve (today : Date) (v : HoldedView) : HoldedView :=
  { v with syncState := some .creating, issueDate := some (v.issueDate.getD today) }

variable {reg : Registry} {sha : Sha256} {clock : Clock} {db db' : Db} {tenantId : TenantId}
  {id : InvoiceId} {existing : Invoice}

theorem find_holded (k : InvoiceId) : db.holded.find k = (db.accounts.find k).map Account.holded :=
  Table.find_view _ _ k

theorem holded_modifyAccount {f : Account → Account} {g : HoldedView → HoldedView}
    (same : ∀ a, (f a).holded = g a.holded) : (db.modifyAccount id f).holded = db.holded.modify id g :=
  Table.view_modify fun a _ => same a

theorem holded_modifyAccount_same {f : Account → Account} (same : ∀ a, (f a).holded = a.holded) :
    (db.modifyAccount id f).holded = db.holded :=
  Table.view_modify_same fun a _ => same a

theorem applyWithholding_holded (reg : Registry) (clock : Clock) (a : Account) :
    (applyWithholding reg clock a).holded = a.holded := by
  unfold applyWithholding
  dsimp only
  split
  · rfl
  · split
    · rfl
    · split
      · rfl
      · split <;> rfl

theorem compensateWithCredit_holded (clock : Clock) (creditCents : ℤ) (a : Account) :
    (compensateWithCredit clock creditCents a).holded = a.holded := by
  unfold compensateWithCredit
  dsimp only
  split
  · rfl
  · rename_i pays
    have payable : a.invoice.status.payable = true := by
      by_contra h
      exact pays (by simp [h])
    have live := InvoiceStatus.payable_ne_cancelled payable
    simp only [Account.holded]
    split <;> simp [live]

theorem compensateOriginal_holded : (compensateOriginal clock existing db).holded = db.holded := by
  unfold compensateOriginal
  split
  · split
    · exact holded_modifyAccount_same fun a => compensateWithCredit_holded clock _ a
    · rfl
  · rfl

theorem issueRectification_holded (h : issueRectification clock tenantId id existing db = .ok db') :
    db'.holded = db.holded := by
  unfold issueRectification at h
  split at h
  · cases h
    rfl
  · obtain ⟨_, -, h⟩ := Outcome.bind_ok h
    cases h
    split
    · refine holded_modifyAccount_same fun a => ?_
      unfold substituteOriginal
      split
      · rename_i payable
        have live := InvoiceStatus.payable_ne_cancelled payable
        simp [Account.holded, live]
      · rfl
    · rfl

theorem settleAtIssue_numbered (settled : Bool) (total : ℤ) (dueDate issueDate : Date) (doc : HoldedDocument)
    (a : Account) : Account.holded { a with
      invoice := { settleAtIssue clock settled total dueDate a.invoice with
        invoiceNumber := doc.number
        issueDate := some issueDate
        issuedBy := .holded
        holdedDocumentId := some doc.documentId
        holdedSyncState := none } } = a.holded.issue (some doc) issueDate := by
  unfold settleAtIssue
  split <;> rfl

theorem settleAtIssue_stamped (settled : Bool) (total : ℤ) (dueDate : Date) (stamp : Stamp) (a : Account) :
    Account.holded { a with
      invoice := (settleAtIssue clock settled total dueDate a.invoice).stamp stamp } =
        a.holded.issue none stamp.issueDate := by
  unfold settleAtIssue
  split <;> rfl

theorem issueTx_holded {settleZero : Bool} {fromHolded : Option HoldedDocument}
    (h : issueTx reg sha clock tenantId id existing settleZero fromHolded db = .ok db') :
    ∃ issueDate, (fromHolded ≠ none → issueDate = existing.issueDate.getD clock.today) ∧
      db'.holded = db.holded.modify id (HoldedView.issue fromHolded issueDate) := by
  obtain ⟨_, -, h⟩ := Outcome.bind_ok h
  obtain ⟨rectified, checked, h⟩ := Outcome.bind_ok h
  obtain ⟨tenant, -, h⟩ := Outcome.bind_ok h
  rw [← issueRectification_holded checked]
  cases fromHolded with
  | some doc =>
    obtain ⟨_, -, h⟩ := Outcome.bind_ok h
    cases h
    refine ⟨_, fun _ => rfl, ?_⟩
    rw [compensateOriginal_holded]
    refine holded_modifyAccount fun a => ?_
    split
    · exact settleAtIssue_numbered ..
    · rw [applyWithholding_holded]
      exact settleAtIssue_numbered ..
  | none =>
    obtain ⟨⟨stamp, series⟩, -, h⟩ := Outcome.bind_ok h
    obtain ⟨_, -, h⟩ := Outcome.bind_ok h
    cases h
    refine ⟨stamp.issueDate, fun some_ => (some_ rfl).elim, ?_⟩
    have row : ∀ (settled : Bool) (dueDate : Date) (a : Account),
        (if settled then { a with
          invoice := (settleAtIssue clock settled existing.total dueDate a.invoice).stamp stamp }
        else applyWithholding reg clock { a with
          invoice := (settleAtIssue clock settled existing.total dueDate a.invoice).stamp stamp }).holded =
        a.holded.issue none stamp.issueDate := by
      intro settled dueDate a
      split
      · exact settleAtIssue_stamped ..
      · rw [applyWithholding_holded]
        exact settleAtIssue_stamped ..
    split
    · rw [compensateOriginal_holded]
      exact holded_modifyAccount fun a => row _ _ a
    · exact holded_modifyAccount fun a => row _ _ a

/-- The transaction of `issueInHolded` finds the invoice in draft and not being created, and reserves it
when it has no document. -/
theorem issueInHoldedTx_holded (h : issueInHoldedTx reg clock tenantId id existing db = .ok db') :
    ∃ fresh, db.findAccount tenantId id = some fresh ∧ fresh.invoice.holdedSyncState ≠ some .creating ∧
      (fresh.invoice.holdedDocumentId.isSome = true ∧ db' = db ∨
        fresh.invoice.holdedDocumentId = none ∧
          db'.holded = db.holded.modify id (HoldedView.reserve clock.today)) := by
  obtain ⟨fresh, found, h⟩ := Outcome.bind_ok h
  obtain ⟨_, -, h⟩ := Outcome.bind_ok h
  obtain ⟨_, idle, h⟩ := Outcome.bind_ok h
  obtain ⟨_, -, h⟩ := Outcome.bind_ok h
  refine ⟨fresh, orMissing_ok found, refuseIf_ok idle, ?_⟩
  split at h
  · rename_i sent
    cases h
    exact .inl ⟨sent, rfl⟩
  · rename_i unsent
    obtain ⟨tenant, -, h⟩ := Outcome.bind_ok h
    cases h
    refine .inr ⟨Option.not_isSome_iff_eq_none.mp unsent, ?_⟩
    have row := (Db.findAccount_some (orMissing_ok found)).1
    refine Table.view_modify fun a there => ?_
    rw [row] at there
    cases there
    rfl

theorem awaitHoldedCreditNoteTx_holded (h : awaitHoldedCreditNoteTx tenantId id existing db = .ok db') :
    ∃ f : HoldedView → HoldedView, db'.holded = db.holded.modify id f ∧
      ∀ v, f v = v ∨ f v = { v with syncState := some .awaitingHolded } := by
  obtain ⟨_, -, h⟩ := Outcome.bind_ok h
  cases h
  by_cases draft : ∀ a, db.accounts.find id = some a → a.invoice.status = .draft
  · refine ⟨fun v => { v with syncState := some .awaitingHolded }, ?_, fun v => .inr rfl⟩
    refine Table.view_modify fun a there => ?_
    rw [if_pos (draft a there)]
    rfl
  · refine ⟨fun v => v, ?_, fun v => .inl rfl⟩
    push Not at draft
    obtain ⟨a, row, issued⟩ := draft
    refine Table.view_modify fun b there => ?_
    rw [row] at there
    cases there
    rw [if_neg issued]

theorem commit_cases {held held' : HoldedDb} {made : Outcome Db} {next rest : Option HoldedCall}
    (h : held.commit made next = (held', rest)) :
    (∃ written, made = .ok written ∧ held' = { held with db := written } ∧ rest = next) ∨
      held' = held ∧ rest = none := by
  cases made with
  | ok written =>
    cases h
    exact .inl ⟨written, rfl, rfl, rfl⟩
  | error =>
    cases h
    exact .inr ⟨rfl, rfl⟩

end StorageOS
