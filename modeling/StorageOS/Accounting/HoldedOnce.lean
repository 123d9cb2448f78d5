import StorageOS.Accounting.Holded
import StorageOS.Lib.Custody

/-! Holded creates one document of an invoice and one payment of a payment, as long as no issue reserves again
an invoice whose creation was answered without an id. -/

namespace StorageOS

open Transition Processes

variable {cfg : HoldedConfig} {reg : Registry} {sha : Sha256} {db db' : HoldedDb} {call : HoldedCall}
  {rest : Option HoldedCall} {clock : Clock} {answer : HoldedAnswer} {input : HoldedInput} {id k : InvoiceId}
  {p q : PaymentId}

/-! ### Requests -/

/-- The requests that copy invoices, issue them in Holded or resolve reviews. `backfill` sends what it reads
one after another: each is a request here, and its payments are sent in any case. -/
inductive HoldedSyncRequest
  | issue (args : IssueArgs)
  | push (tenantId : TenantId) (invoiceId : InvoiceId) (always : Bool)
  | invoicePaid (tenantId : TenantId) (invoiceId : InvoiceId)
  | invoiceCancelled (tenantId : TenantId) (invoiceId : InvoiceId)
  | resolveInvoiceReview (tenantId : TenantId) (invoiceId : InvoiceId) (review : HoldedReview)
  | resolvePaymentReview (payment : PaymentId) (review : HoldedReview)

/-- The issue of an invoice of a tenant in the mode of Holded, which issues it there. -/
def beginHoldedIssue (reg : Registry) (db : Db) (args : IssueArgs) : Option HoldedCall :=
  match beginIssue reg db { args with holdedDocument := none } .holded with
  | .ok (.issueInHolded args existing) => some (.reserving args existing)
  | _ => none

def enterHoldedSync (reg : Registry) (db : HoldedDb) : HoldedSyncRequest → Option HoldedCall
  | .issue args => beginHoldedIssue reg db.db args
  | .push tenantId id always => some (.pushing tenantId id always)
  | .invoicePaid tenantId id => some (.paying tenantId id)
  | .invoiceCancelled tenantId id => some (.annulling tenantId id)
  | .resolveInvoiceReview tenantId id review => some (.reviewingInvoice tenantId id review)
  | .resolvePaymentReview p review => some (.reviewingPayment p review)

def holdedSyncSystem (cfg : HoldedConfig) (reg : Registry) (sha : Sha256) :
    Processes.System HoldedDb HoldedCall HoldedSyncRequest HoldedInput where
  enter := enterHoldedSync reg
  next := nextHolded cfg reg sha

/-! ### Reservations -/

def HoldedTask.about (k : InvoiceId) (task : HoldedTask) : ℕ := if task.invoiceId = k then 1 else 0

/-- A request that has reserved the invoice and has not created its document. -/
def HoldedCall.holdsInvoice (k : InvoiceId) : HoldedCall → ℕ
  | .reading args _ true => if args.invoiceId = k then 1 else 0
  | .contacting task _ | .creating task _ _ => task.about k
  | .releasing id => if id = k then 1 else 0
  | _ => 0

def HoldedCall.holdsPayment (p : PaymentId) : HoldedCall → ℕ
  | .addingPayment q _ | .releasingPayment q => if q = p then 1 else 0
  | _ => 0

/-- An invoice with a document, or whose document is being created, approved or numbered. -/
def HoldedView.closed (v : HoldedView) : Bool :=
  v.documentId.isSome || v.syncState = some .creating || v.syncState = some .approving ||
    v.syncState = some .numbering

def HoldedPayment.closed (row : HoldedPayment) : Bool :=
  row.holdedSyncedAt.isSome || row.holdedSyncStartedAt.isSome

def documentCustody : Custody HoldedDb HoldedCall InvoiceId where
  made db k := db.documents.countP fun r => r.invoiceId = some k
  holds call k := call.holdsInvoice k
  closed db k := (db.db.holded.find k).any HoldedView.closed = true

def paymentCustody : Custody HoldedDb HoldedCall PaymentId where
  made db p := db.registered.count p
  holds call p := call.holdsPayment p
  closed db p := (db.payments.find p).any HoldedPayment.closed = true

/-- A retry comes when the attempt has ended and nothing was created. -/
def retryAfterAttempt (s : State HoldedDb HoldedCall) : HoldedCall → HoldedInput → Bool
  | .reviewingInvoice _ id .retry, .proceed .. => documentCustody.total s id = 0
  | .reviewingPayment p .retry, .proceed .. => paymentCustody.total s p = 0
  | _, _ => true

/-- The condition on a step: an issue does not reserve an invoice that waits to be approved or numbered
without the id of its document. -/
def documentKnown (db : HoldedDb) : HoldedCall → HoldedInput → Bool
  | .reserving args _, .proceed .. => (db.db.findAccount args.tenantId args.invoiceId).all fun a =>
    a.invoice.holdedDocumentId.isSome || (a.invoice.holdedSyncState ≠ some .approving &&
      a.invoice.holdedSyncState ≠ some .numbering)
  | _, _ => true

/-! ### Rows -/

def HoldedDb.linked (db : HoldedDb) (k : InvoiceId) : Prop :=
  ∀ v, db.db.holded.find k = some v → v.documentId.isSome = true

variable {g : HoldedView → HoldedView} {tenantId : TenantId} {args : IssueArgs} {existing : Invoice} {invoice : Invoice}
  {task : HoldedTask} {documentId : Option String}

theorem holded_modifyInvoice {f : Invoice → Invoice}
    (same : ∀ i : Invoice, ∀ payments, Account.holded ⟨f i, payments⟩ = g (Account.holded ⟨i, payments⟩)) :
    (db.modifyInvoice id f).db.holded = db.db.holded.modify id g :=
  holded_modifyAccount fun a => same a.invoice a.payments

theorem holded_setSyncState (state : Option HoldedSyncState) :
    (db.setSyncState id state).db.holded = db.db.holded.modify id fun v => { v with syncState := state } :=
  holded_modifyInvoice fun _ _ => rfl

theorem holded_saveDocument (documentId : Option String) :
    (db.modifyInvoice id (Invoice.saveDocument documentId)).db.holded = db.db.holded.modify id fun v =>
      { v with documentId := documentId <|> v.documentId, syncState := some .approving } :=
  holded_modifyInvoice fun _ _ => rfl

def HoldedView.resolveReview (review : HoldedReview) (v : HoldedView) : HoldedView :=
  if v.syncState = some .creating then
    match review with
    | .retry => { v with syncState := none }
    | .alreadyInHolded (some documentId) => { v with documentId := some documentId, syncState := none }
    | .alreadyInHolded none | .reviewed => v
  else v

theorem holded_resolveReview (review : HoldedReview) :
    (db.modifyInvoice id (Invoice.resolveReview review)).db.holded =
      db.db.holded.modify id (HoldedView.resolveReview review) := by
  refine holded_modifyInvoice fun i payments => ?_
  rcases review with _ | ⟨_ | documentId⟩ | _ <;> by_cases creating : i.holdedSyncState = some .creating <;>
    simp [Invoice.resolveReview, HoldedView.resolveReview, Account.holded, creating]

theorem closed_modify (rows : db'.db.holded = db.db.holded.modify id g)
    (stays : ∀ v, db.db.holded.find id = some v → v.closed = true → (g v).closed = true)
    (before : documentCustody.closed db k) : documentCustody.closed db' k := by
  obtain ⟨v, found, closed⟩ := (Option.any_eq_true _ _).mp before
  rw [documentCustody]
  dsimp only
  rw [rows]
  by_cases own : k = id
  · subst own
    rw [Table.find_modify_self, found]
    exact stays v found closed
  · rw [Table.find_modify_ne _ own, found]
    exact closed

theorem closed_modify_ne (rows : db'.db.holded = db.db.holded.modify id g) (other : k ≠ id)
    (before : documentCustody.closed db k) : documentCustody.closed db' k := by
  rw [documentCustody] at before ⊢
  dsimp only at before ⊢
  rw [rows, Table.find_modify_ne _ other]
  exact before

theorem closed_same (rows : db'.db.holded = db.db.holded) (before : documentCustody.closed db k) :
    documentCustody.closed db' k := by
  rw [documentCustody] at before ⊢
  dsimp only at before ⊢
  rw [rows]
  exact before

theorem linked_modify (rows : db'.db.holded = db.db.holded.modify id g)
    (stays : ∀ v, v.documentId.isSome = true → (g v).documentId.isSome = true) (before : db.linked k) :
    db'.linked k := by
  intro w there
  rw [rows] at there
  rcases Table.find_modify_cases there with ⟨-, found⟩ | ⟨rfl, v, found, rfl⟩
  · exact before w found
  · exact stays v (before v found)

variable {v : HoldedView} {a : Account} {always : Bool} {lines : List HoldedLine} {review : HoldedReview}

theorem HoldedView.closed_of_document (has : v.documentId.isSome = true) :
    v.closed = true := by
  simp [closed, has]

/-! ### Steps -/

/-- What a request knows of the rows: the one that goes on with a document has it in its invoice. -/
def HoldedCall.Known (db : HoldedDb) : HoldedCall → Prop
  | .reading args _ false => db.linked args.invoiceId
  | .approving task (some _) | .approved task _ => db.linked task.invoiceId
  | .awaiting .. | .issuing _ _ none | .linking .. | .linked .. | .updating .. | .cancelling .. | .making .. =>
    False
  | _ => True

structure HoldedCall.Idle (call : HoldedCall) : Prop where
  invoice : ∀ k, call.holdsInvoice k = 0
  payment : ∀ p, call.holdsPayment p = 0

structure HoldedKept (s : State HoldedDb HoldedCall) (call : HoldedCall) (db' : HoldedDb)
    (rest : Option HoldedCall) : Prop where
  linked : ∀ k, s.db.linked k → db'.linked k
  known : ∀ next, rest = some next → next.Known db'
  invoices : ∀ k, documentCustody.Keeps s call db' rest k
  payments : ∀ p, paymentCustody.Keeps s call db' rest p

variable {s : State HoldedDb HoldedCall}

theorem documents_pass (documents : db'.documents = s.db.documents)
    (closed : documentCustody.closed s.db k → documentCustody.closed db' k)
    (holds : (rest.map (HoldedCall.holdsInvoice k)).getD 0 ≤ call.holdsInvoice k) :
    documentCustody.Keeps s call db' rest k := by
  refine .passes ?_ closed
  rw [Custody.after, documentCustody]
  dsimp only
  rw [documents]
  exact Nat.add_le_add_left holds _

theorem payments_pass (registered : db'.registered = s.db.registered)
    (closed : paymentCustody.closed s.db p → paymentCustody.closed db' p)
    (holds : (rest.map (HoldedCall.holdsPayment p)).getD 0 ≤ call.holdsPayment p) :
    paymentCustody.Keeps s call db' rest p := by
  refine .passes ?_ closed
  rw [Custody.after, paymentCustody]
  dsimp only
  rw [registered]
  exact Nat.add_le_add_left holds _

theorem payments_same (payments : db'.payments = s.db.payments) (registered : db'.registered = s.db.registered)
    (holds : (rest.map (HoldedCall.holdsPayment p)).getD 0 = 0) :
    paymentCustody.Keeps s call db' rest p := by
  refine payments_pass registered (fun before => ?_) (by rw [holds]; exact Nat.zero_le _)
  rw [paymentCustody] at before ⊢
  dsimp only at before ⊢
  rw [payments]
  exact before

theorem idle_holds (idle : ∀ next, rest = some next → next.Idle) :
    (∀ k, (rest.map (HoldedCall.holdsInvoice k)).getD 0 = 0) ∧
      ∀ p, (rest.map (HoldedCall.holdsPayment p)).getD 0 = 0 := by
  cases rest with
  | none => exact ⟨fun _ => rfl, fun _ => rfl⟩
  | some next => exact ⟨(idle next rfl).invoice, (idle next rfl).payment⟩

theorem kept_of_read (idle : ∀ next, rest = some next → next.Idle)
    (known : ∀ next, rest = some next → next.Known s.db) : HoldedKept s call s.db rest where
  linked _ before := before
  known := known
  invoices k := documents_pass rfl (fun before => before)
    (by rw [(idle_holds idle).1 k]; exact Nat.zero_le _)
  payments p := payments_same rfl rfl ((idle_holds idle).2 p)

theorem kept_of_throw : HoldedKept s call s.db none :=
  kept_of_read goesOn_none goesOn_none

theorem kept_of_write (rows : db'.db.holded = s.db.db.holded.modify id g)
    (document : ∀ v, v.documentId.isSome = true → (g v).documentId.isSome = true)
    (stays : ∀ v, s.db.db.holded.find id = some v → v.closed = true → (g v).closed = true)
    (documents : db'.documents = s.db.documents) (payments : db'.payments = s.db.payments)
    (registered : db'.registered = s.db.registered) (idle : ∀ next, rest = some next → next.Idle)
    (known : ∀ next, rest = some next → next.Known db') : HoldedKept s call db' rest where
  linked _ before := linked_modify rows document before
  known := known
  invoices k := documents_pass documents (closed_modify rows stays)
    (by rw [(idle_holds idle).1 k]; exact Nat.zero_le _)
  payments p := payments_same payments registered ((idle_holds idle).2 p)

theorem unsent_eq (found : db.db.findAccount tenantId id = some a) :
    db.db.unsent tenantId id = a.invoice.holdedDocumentId.isNone := by
  rw [Db.unsent, found, Option.all_some]

theorem holded_of_account (found : db.db.findAccount tenantId id = some a) :
    db.db.holded.find id = some a.holded := by
  rw [find_holded, (Db.findAccount_some found).1, Option.map_some]

theorem kept_of_reservation {next : HoldedCall} (rows : db'.db.holded = s.db.db.holded.modify id g)
    (found : s.db.db.holded.find id = some v) (opened : v.closed = false) (shut : (g v).closed = true)
    (document : ∀ v, v.documentId.isSome = true → (g v).documentId.isSome = true)
    (documents : db'.documents = s.db.documents) (payments : db'.payments = s.db.payments)
    (registered : db'.registered = s.db.registered) (holds : ∀ k, next.holdsInvoice k = if id = k then 1 else 0)
    (idle : ∀ p, next.holdsPayment p = 0) (known : next.Known db') : HoldedKept s call db' (some next) where
  linked _ before := linked_modify rows document before
  known _ goesOn := by
    cases goesOn
    exact known
  invoices k := by
    by_cases own : k = id
    · subst own
      refine .reserves ?_ ?_ ?_
      · rw [documentCustody]
        dsimp only
        rw [found, Option.any_some, opened]
        exact Bool.false_ne_true
      · rw [Custody.after, documentCustody]
        dsimp only
        rw [documents, Option.map_some, Option.getD_some, holds, if_pos rfl]
        omega
      · rw [documentCustody]
        dsimp only
        rw [rows, Table.find_modify_self, found]
        exact shut
    · refine documents_pass documents (closed_modify_ne rows own) ?_
      rw [Option.map_some, Option.getD_some, holds, if_neg (Ne.symm own)]
      exact Nat.zero_le _
  payments p := payments_same payments registered (idle p)

theorem reserving_kept (inTurn : documentKnown s.db (.reserving args existing) (.proceed clock answer) = true)
    (made : stepHolded cfg reg sha s.db clock answer (.reserving args existing) = (db', rest)) :
    HoldedKept s (.reserving args existing) db' rest := by
  rcases commit_cases made with ⟨written, committed, rfl, rfl⟩ | ⟨rfl, rfl⟩
  · obtain ⟨fresh, found, idle, ⟨sent, rfl⟩ | ⟨unsent, rows⟩⟩ := issueInHoldedTx_holded committed
    · have none_ : s.db.db.unsent args.tenantId args.invoiceId = false := by
        rw [unsent_eq found, Option.isNone_eq_false_iff]
        exact sent
      rw [none_]
      refine kept_of_read (fun next goesOn => ?_) fun next goesOn => ?_
      · cases goesOn
        exact ⟨fun _ => rfl, fun _ => rfl⟩
      · cases goesOn
        intro v there
        rw [holded_of_account found] at there
        cases there
        exact sent
    · have some_ : s.db.db.unsent args.tenantId args.invoiceId = true := by
        rw [unsent_eq found, unsent]
        rfl
      rw [some_]
      have opened : fresh.holded.closed = false := by
        rw [documentKnown, found, Option.all_some, unsent] at inTurn
        simp only [Option.isSome_none, Bool.false_or, Bool.and_eq_true, decide_eq_true_eq] at inTurn
        simp [HoldedView.closed, Account.holded, unsent, idle, inTurn.1, inTurn.2]
      have reserved : ({ s.db with db := written } : HoldedDb).db.holded =
          s.db.db.holded.modify args.invoiceId (HoldedView.reserve clock.today) := rows
      exact kept_of_reservation reserved (holded_of_account found) opened
        (by simp [HoldedView.closed, HoldedView.reserve]) (fun v has => has) rfl rfl rfl (fun k => rfl)
        (fun p => rfl) trivial
  · exact kept_of_throw

theorem claiming_kept
    (made : stepHolded cfg reg sha s.db clock answer (.claiming tenantId id always invoice) = (db', rest)) :
    HoldedKept s (.claiming tenantId id always invoice) db' rest := by
  rw [stepHolded] at made
  split at made
  · rename_i unclaimed
    cases made
    obtain ⟨a, found, free⟩ := (Option.any_eq_true _ _).mp unclaimed
    rw [Invoice.unclaimed, Bool.and_eq_true, Option.isNone_iff_eq_none, Option.isNone_iff_eq_none] at free
    exact kept_of_reservation (holded_setSyncState _) (holded_of_account found)
      (by simp [HoldedView.closed, Account.holded, free.1, free.2]) (by simp [HoldedView.closed])
      (fun v has => has) rfl rfl rfl (fun k => rfl) (fun p => rfl) trivial
  · cases made
    refine kept_of_read (fun next goesOn => ?_) fun next goesOn => ?_
    · rw [pushed] at goesOn
      split at goesOn <;> cases goesOn
      exact ⟨fun _ => rfl, fun _ => rfl⟩
    · rw [pushed] at goesOn
      split at goesOn <;> cases goesOn
      trivial

theorem reading_kept {reserved : Bool} (known : (HoldedCall.reading args existing reserved).Known s.db)
    (made : stepHolded cfg reg sha s.db clock answer (.reading args existing reserved) = (db', rest)) :
    HoldedKept s (.reading args existing reserved) db' rest := by
  cases made
  cases found : s.db.db.findAccount args.tenantId args.invoiceId with
  | none => exact kept_of_throw
  | some a =>
    rw [Option.map_some, issueDocument]
    cases document : a.invoice.holdedDocumentId with
    | some documentId =>
      have linked : s.db.linked args.invoiceId := by
        intro v there
        rw [holded_of_account found] at there
        cases there
        rw [Account.holded, document]
        rfl
      dsimp only
      split
      · refine kept_of_read (fun next goesOn => ?_) fun next goesOn => ?_ <;> cases goesOn
        · exact ⟨fun _ => rfl, fun _ => rfl⟩
        · trivial
      · refine kept_of_read (fun next goesOn => ?_) fun next goesOn => ?_ <;> cases goesOn
        · exact ⟨fun _ => rfl, fun _ => rfl⟩
        · exact linked
    | none =>
      have holds : reserved = true := by
        cases reserved with
        | true => rfl
        | false =>
          have has := known _ (holded_of_account found)
          rw [Account.holded, document] at has
          cases has
      subst holds
      refine ⟨fun _ before => before, fun next goesOn => ?_, fun k => ?_, fun p => ?_⟩
      · cases goesOn
        trivial
      · exact documents_pass rfl (fun before => before) le_rfl
      · exact payments_same rfl rfl rfl

theorem contacting_kept (made : stepHolded cfg reg sha s.db clock answer (.contacting task invoice) = (db', rest)) :
    HoldedKept s (.contacting task invoice) db' rest := by
  have goesOn : db' = s.db ∧ (rest = some (.releasing task.invoiceId) ∨
      ∃ lines, rest = some (.creating task invoice lines)) := by
    unfold stepHolded at made
    dsimp only at made
    split at made
    · cases made
      exact ⟨rfl, .inr ⟨_, rfl⟩⟩
    · cases made
      exact ⟨rfl, .inl rfl⟩
  obtain ⟨rfl, rfl | ⟨lines, rfl⟩⟩ := goesOn
  all_goals
    refine ⟨fun _ before => before, fun next goesOn => ?_, fun k => ?_, fun p => ?_⟩
    · cases goesOn
      trivial
    · exact documents_pass rfl (fun before => before) le_rfl
    · exact payments_same rfl rfl rfl

theorem kept_of_creation {credit : HoldedRecord} (own : credit.invoiceId = some task.invoiceId)
    (idle : ∀ next, rest = some next → next.Idle) (known : ∀ next, rest = some next → next.Known (s.db.create credit)) :
    HoldedKept s (.creating task invoice lines) (s.db.create credit) rest where
  linked _ before := before
  known := known
  invoices k := by
    refine .passes ?_ fun before => before
    rw [Custody.after, documentCustody]
    dsimp only
    rw [(idle_holds idle).1 k, HoldedDb.create, List.countP_cons, own]
    simp only [HoldedCall.holdsInvoice, HoldedTask.about, Option.some.injEq, decide_eq_true_eq, add_zero,
      le_refl]
  payments p := payments_same rfl rfl ((idle_holds idle).2 p)

theorem creating_kept (made : stepHolded cfg reg sha s.db clock answer (.creating task invoice lines) = (db', rest)) :
    HoldedKept s (.creating task invoice lines) db' rest := by
  cases answer with
  | ok text body =>
    cases made
    refine kept_of_creation rfl (fun next goesOn => ?_) fun next goesOn => ?_ <;> cases goesOn
    · exact ⟨fun _ => rfl, fun _ => rfl⟩
    · trivial
  | error =>
    cases made
    refine ⟨fun _ before => before, fun next goesOn => ?_, fun k => ?_, fun p => ?_⟩
    · cases goesOn
      trivial
    · exact documents_pass rfl (fun before => before) le_rfl
    · exact payments_same rfl rfl rfl
  | lost done =>
    cases done with
    | none =>
      cases made
      exact kept_of_throw
    | some text =>
      cases made
      exact kept_of_creation rfl goesOn_none goesOn_none

theorem releasing_kept : HoldedKept s (.releasing id) (s.db.setSyncState id none) none where
  linked _ before := linked_modify (holded_setSyncState _) (fun _ has => has) before
  known := goesOn_none
  invoices k := by
    by_cases own : k = id
    · subst own
      exact .releases (if_pos rfl) rfl
    · exact documents_pass rfl (closed_modify_ne (holded_setSyncState _) own) (Nat.zero_le _)
  payments p := payments_same rfl rfl rfl

theorem saving_kept (made : stepHolded cfg reg sha s.db clock answer (.saving task documentId) = (db', rest)) :
    HoldedKept s (.saving task documentId) db' rest := by
  cases made
  have document : ∀ v : HoldedView, v.documentId.isSome = true →
      (documentId <|> v.documentId).isSome = true := by
    intro v has
    cases documentId <;> simp [has]
  refine kept_of_write (holded_saveDocument documentId) document
    (fun v _ _ => by simp [HoldedView.closed]) rfl rfl rfl (fun next goesOn => ?_) fun next goesOn => ?_
  · cases goesOn
    exact ⟨fun _ => rfl, fun _ => rfl⟩
  · cases goesOn
    cases documentId with
    | none => trivial
    | some documentId =>
      intro v there
      rw [holded_saveDocument, Table.find_modify_self, Option.map_eq_some_iff] at there
      obtain ⟨w, -, rfl⟩ := there
      rfl

theorem approving_kept (known : (HoldedCall.approving task documentId).Known s.db)
    (made : stepHolded cfg reg sha s.db clock answer (.approving task documentId) = (db', rest)) :
    HoldedKept s (.approving task documentId) db' rest := by
  unfold stepHolded at made
  dsimp only at made
  split at made
  · cases made
    refine kept_of_read (fun next goesOn => ?_) fun next goesOn => ?_ <;> cases goesOn
    · exact ⟨fun _ => rfl, fun _ => rfl⟩
    · exact known
  · cases made
    exact kept_of_throw

theorem approved_kept (known : s.db.linked task.invoiceId)
    (made : stepHolded cfg reg sha s.db clock answer (.approved task documentId) = (db', rest)) :
    HoldedKept s (.approved task documentId) db' rest := by
  cases task with
  | issue args existing =>
    cases made
    refine kept_of_write (holded_setSyncState _) (fun _ has => has)
      (fun w _ _ => by simp [HoldedView.closed]) rfl rfl rfl (fun next goesOn => ?_) fun next goesOn => ?_
    · cases goesOn
      exact ⟨fun _ => rfl, fun _ => rfl⟩
    · cases goesOn
      trivial
  | push tenantId id always =>
    cases made
    refine kept_of_write (holded_setSyncState _) (fun _ has => has) (fun v there _ => ?_) rfl rfl rfl
      (fun next goesOn => ?_) fun next goesOn => ?_
    · exact HoldedView.closed_of_document (known v there)
    · cases goesOn
      exact ⟨fun _ => rfl, fun _ => rfl⟩
    · cases goesOn
      trivial

theorem numbering_kept
    (made : stepHolded cfg reg sha s.db clock answer (.numbering args existing documentId) = (db', rest)) :
    HoldedKept s (.numbering args existing documentId) db' rest := by
  unfold stepHolded at made
  dsimp only at made
  split at made
  · cases made
    refine kept_of_read (fun next goesOn => ?_) fun next goesOn => ?_ <;> split at goesOn <;> cases goesOn
    · exact ⟨fun _ => rfl, fun _ => rfl⟩
    · trivial
  · cases made
    exact kept_of_throw

theorem issuing_kept {fromHolded : Option HoldedDocument}
    (made : stepHolded cfg reg sha s.db clock answer (.issuing args existing fromHolded) = (db', rest)) :
    HoldedKept s (.issuing args existing fromHolded) db' rest := by
  rcases commit_cases made with ⟨written, committed, rfl, rfl⟩ | ⟨rfl, rfl⟩
  · obtain ⟨issueDate, -, rows⟩ := issueTx_holded committed
    have document : ∀ v : HoldedView, v.documentId.isSome = true →
        (v.issue fromHolded issueDate).documentId.isSome = true := by
      intro v has
      cases fromHolded <;> simp [HoldedView.issue, has]
    have issued : ({ s.db with db := written } : HoldedDb).db.holded =
        s.db.db.holded.modify args.invoiceId (HoldedView.issue fromHolded issueDate) := rows
    refine kept_of_write issued document (fun v _ closed => ?_) rfl rfl rfl
      goesOn_none goesOn_none
    cases fromHolded with
    | none => exact closed
    | some doc => exact HoldedView.closed_of_document rfl
  · exact kept_of_throw

theorem pushing_kept (made : stepHolded cfg reg sha s.db clock answer (.pushing tenantId id always) = (db', rest)) :
    HoldedKept s (.pushing tenantId id always) db' rest := by
  cases made
  have sent : ∀ created next, pushed tenantId id always created = some next →
      next.Idle ∧ next.Known s.db := by
    intro created next goesOn
    rw [pushed] at goesOn
    split at goesOn <;> cases goesOn
    exact ⟨⟨fun _ => rfl, fun _ => rfl⟩, trivial⟩
  have both : ∀ next, ((s.db.db.findAccount tenantId id).bind fun a =>
      pushDocument cfg tenantId id always a.invoice) = some next → next.Idle ∧ next.Known s.db := by
    intro next goesOn
    obtain ⟨a, found, goesOn⟩ := Option.bind_eq_some_iff.mp goesOn
    unfold pushDocument at goesOn
    split at goesOn
    · exact sent _ _ goesOn
    · split at goesOn
      · rename_i documentId document
        split at goesOn
        · cases goesOn
          refine ⟨⟨fun _ => rfl, fun _ => rfl⟩, fun v there => ?_⟩
          have row : s.db.db.holded.find id = some a.holded := holded_of_account found
          obtain rfl : a.holded = v := Option.some.inj (row.symm.trans there)
          rw [Account.holded, document]
          rfl
        · exact sent _ _ goesOn
      · split at goesOn
        · exact sent _ _ goesOn
        · split at goesOn <;> cases goesOn
          exact ⟨⟨fun _ => rfl, fun _ => rfl⟩, trivial⟩
  exact kept_of_read (fun next goesOn => (both next goesOn).1) fun next goesOn => (both next goesOn).2

/-! ### Payments and reviews -/

theorem kept_of_payments (rows : db'.db = s.db.db) (documents : db'.documents = s.db.documents)
    (idle : ∀ k, (rest.map (HoldedCall.holdsInvoice k)).getD 0 = 0)
    (known : ∀ next, rest = some next → next.Known db')
    (payments : ∀ p, paymentCustody.Keeps s call db' rest p) : HoldedKept s call db' rest where
  linked k before v there := by
    rw [rows] at there
    exact before v there
  known := known
  invoices k := documents_pass documents (closed_same (by rw [rows]))
    (by rw [idle k]; exact Nat.zero_le _)
  payments := payments

theorem paymentClosed_modify (g : HoldedPayment → HoldedPayment)
    (rows : db'.payments = s.db.payments.modify q g)
    (stays : p = q → ∀ row, row.closed = true → (g row).closed = true)
    (before : paymentCustody.closed s.db p) : paymentCustody.closed db' p := by
  obtain ⟨row, found, closed⟩ := (Option.any_eq_true _ _).mp before
  rw [paymentCustody]
  dsimp only
  rw [rows]
  by_cases own : p = q
  · subst own
    rw [Table.find_modify_self, found]
    exact stays rfl row closed
  · rw [Table.find_modify_ne _ own, found]
    exact closed

variable {payments : List PaymentId}

theorem claimingPayment_kept
    (made : stepHolded cfg reg sha s.db clock answer (.claimingPayment payments) = (db', rest)) :
    HoldedKept s (.claimingPayment payments) db' rest := by
  cases payments with
  | nil =>
    cases made
    exact kept_of_throw
  | cons q left =>
    unfold stepHolded at made
    dsimp only at made
    split at made
    · rename_i free
      cases made
      obtain ⟨row, found, unsent⟩ := (Option.any_eq_true _ _).mp free
      rw [Bool.and_eq_true, Option.isNone_iff_eq_none, Option.isNone_iff_eq_none] at unsent
      refine kept_of_payments rfl rfl (fun _ => rfl) (fun next goesOn => ?_) fun p => ?_
      · cases goesOn
        trivial
      · by_cases own : p = q
        · subst own
          refine .reserves ?_ ?_ ?_
          · rw [paymentCustody]
            dsimp only
            rw [found, Option.any_some, HoldedPayment.closed, unsent.1, unsent.2]
            exact Bool.false_ne_true
          · rw [Custody.after, paymentCustody]
            dsimp only
            rw [Option.map_some, Option.getD_some, HoldedCall.holdsPayment, if_pos rfl]
            omega
          · rw [paymentCustody]
            dsimp only
            rw [Table.find_modify_self, found]
            exact Bool.or_true _
        · refine payments_pass rfl (paymentClosed_modify (fun row =>
            { row with holdedSyncStartedAt := some clock.now }) rfl fun same => (own same).elim) ?_
          rw [Option.map_some, Option.getD_some, HoldedCall.holdsPayment, if_neg (Ne.symm own)]
          exact Nat.zero_le _
    · cases made
      refine kept_of_read (fun next goesOn => ?_) fun next goesOn => ?_ <;> cases goesOn
      · exact ⟨fun _ => rfl, fun _ => rfl⟩
      · trivial

theorem kept_of_registration (idle : ∀ next, rest = some next → next.Idle)
    (known : ∀ next, rest = some next → next.Known s.db) :
    HoldedKept s (.addingPayment q payments) { s.db with registered := q :: s.db.registered } rest := by
  refine kept_of_payments rfl rfl (idle_holds idle).1 known fun p => ?_
  refine .passes ?_ fun before => before
  rw [Custody.after, paymentCustody]
  dsimp only
  rw [(idle_holds idle).2 p, List.count_cons, HoldedCall.holdsPayment]
  simp only [beq_iff_eq, add_zero, le_refl]

theorem addingPayment_kept
    (made : stepHolded cfg reg sha s.db clock answer (.addingPayment q payments) = (db', rest)) :
    HoldedKept s (.addingPayment q payments) db' rest := by
  cases answer with
  | ok text body =>
    cases made
    refine kept_of_registration (fun next goesOn => ?_) fun next goesOn => ?_ <;> cases goesOn
    · exact ⟨fun _ => rfl, fun _ => rfl⟩
    · trivial
  | error =>
    cases made
    refine kept_of_payments rfl rfl (fun _ => rfl) (fun next goesOn => ?_) fun p => ?_
    · cases goesOn
      trivial
    · exact payments_pass rfl (fun before => before) le_rfl
  | lost done =>
    cases done with
    | none =>
      cases made
      exact kept_of_throw
    | some text =>
      cases made
      exact kept_of_registration goesOn_none goesOn_none

theorem releasingPayment_kept
    (made : stepHolded cfg reg sha s.db clock answer (.releasingPayment q) = (db', rest)) :
    HoldedKept s (.releasingPayment q) db' rest := by
  cases made
  refine kept_of_payments rfl rfl (fun _ => rfl) goesOn_none
    fun p => ?_
  by_cases own : p = q
  · subst own
    exact .releases (if_pos rfl) rfl
  · exact payments_pass rfl (paymentClosed_modify (fun row => { row with holdedSyncStartedAt := none }) rfl
      fun same => (own same).elim) (Nat.zero_le _)

theorem markingPayment_kept
    (made : stepHolded cfg reg sha s.db clock answer (.markingPayment q payments) = (db', rest)) :
    HoldedKept s (.markingPayment q payments) db' rest := by
  cases made
  refine kept_of_payments rfl rfl (fun _ => rfl) (fun next goesOn => ?_) fun p => ?_
  · cases goesOn
    trivial
  · exact payments_pass rfl (paymentClosed_modify (fun row =>
      { row with holdedSyncedAt := some clock.now, holdedSyncStartedAt := none }) rfl fun _ _ _ => rfl) (Nat.zero_le _)

theorem annulment_kept (sent : db'.db = s.db.db ∧ db'.documents = s.db.documents ∧
      db'.payments = s.db.payments ∧ db'.registered = s.db.registered)
    (idle : ∀ next, rest = some next → next.Idle) (known : ∀ next, rest = some next → next.Known db') :
    HoldedKept s call db' rest :=
  kept_of_payments sent.1 sent.2.1 (idle_holds idle).1 known
    fun p => payments_same sent.2.2.1 sent.2.2.2 ((idle_holds idle).2 p)

theorem reviewingInvoice_kept
    (settled : retryAfterAttempt s (.reviewingInvoice tenantId id review) (.proceed clock answer) = true)
    (made : stepHolded cfg reg sha s.db clock answer (.reviewingInvoice tenantId id review) = (db', rest)) :
    HoldedKept s (.reviewingInvoice tenantId id review) db' rest := by
  cases made
  split
  · have document : ∀ v : HoldedView, v.documentId.isSome = true →
        (v.resolveReview review).documentId.isSome = true := by
      intro v has
      unfold HoldedView.resolveReview
      split
      · rcases review with _ | ⟨_ | documentId⟩ | _ <;> first | exact has | rfl
      · exact has
    by_cases retry : review = .retry
    · subst retry
      refine ⟨fun _ before => linked_modify (holded_resolveReview _) document before,
        goesOn_none, fun k => ?_, fun p => payments_same rfl rfl rfl⟩
      by_cases own : k = id
      · subst own
        exact .idle (of_decide_eq_true settled) le_rfl
      · exact documents_pass rfl (closed_modify_ne (holded_resolveReview _) own) (Nat.zero_le _)
    · refine kept_of_write (holded_resolveReview _) document (fun v _ closed => ?_) rfl rfl rfl
        goesOn_none goesOn_none
      unfold HoldedView.resolveReview
      split
      · rcases review with _ | ⟨_ | documentId⟩ | _
        · exact (retry rfl).elim
        · exact closed
        · exact HoldedView.closed_of_document rfl
        · exact closed
      · exact closed
  · exact kept_of_throw

theorem reviewingPayment_kept
    (settled : retryAfterAttempt s (.reviewingPayment q review) (.proceed clock answer) = true)
    (made : stepHolded cfg reg sha s.db clock answer (.reviewingPayment q review) = (db', rest)) :
    HoldedKept s (.reviewingPayment q review) db' rest := by
  cases made
  refine kept_of_payments rfl rfl (fun _ => rfl) goesOn_none
    fun p => ?_
  by_cases own : p = q
  · subst own
    by_cases retry : review = .retry
    · subst retry
      exact .idle (of_decide_eq_true settled) le_rfl
    · refine payments_pass rfl (paymentClosed_modify (HoldedPayment.resolveReview review clock.now) rfl
        fun _ row closed => ?_) (Nat.zero_le _)
      unfold HoldedPayment.resolveReview
      cases review with
      | retry => exact (retry rfl).elim
      | reviewed => exact closed
      | alreadyInHolded =>
        dsimp only
        split
        · rfl
        · exact closed
  · exact payments_pass rfl (paymentClosed_modify (HoldedPayment.resolveReview review clock.now) rfl
      fun same => (own same).elim) (Nat.zero_le _)

/-! ### Runs -/

theorem nextHolded_kept (known : call.Known s.db) (settled : retryAfterAttempt s call input = true)
    (inTurn : documentKnown s.db call input = true)
    (made : nextHolded cfg reg sha s.db call input = some (db', rest)) : HoldedKept s call db' rest := by
  cases input with
  | throws =>
    cases made
    exact kept_of_throw
  | proceed clock answer =>
    rw [nextHolded] at made
    split at made
    · replace made := Option.some.inj made
      cases call with
      | reserving => exact reserving_kept inTurn made
      | reading => exact reading_kept known made
      | contacting => exact contacting_kept made
      | creating => exact creating_kept made
      | releasing =>
        cases made
        exact releasing_kept
      | saving => exact saving_kept made
      | approving => exact approving_kept known made
      | approved => exact approved_kept known made
      | numbering => exact numbering_kept made
      | issuing => exact issuing_kept made
      | pushing => exact pushing_kept made
      | claiming => exact claiming_kept made
      | paying tenantId id =>
        cases made
        refine kept_of_read (fun next goesOn => ?_) fun next goesOn => ?_ <;> cases goesOn
        · exact ⟨fun _ => rfl, fun _ => rfl⟩
        · trivial
      | claimingPayment => exact claimingPayment_kept made
      | addingPayment => exact addingPayment_kept made
      | releasingPayment => exact releasingPayment_kept made
      | markingPayment => exact markingPayment_kept made
      | annulling tenantId id =>
        cases made
        refine kept_of_read (fun next goesOn => ?_) fun next goesOn => ?_ <;> split at goesOn <;>
          cases goesOn
        · exact ⟨fun _ => rfl, fun _ => rfl⟩
        · trivial
      | claimingAnnulment id =>
        unfold stepHolded at made
        dsimp only at made
        split at made <;> cases made
        · exact kept_of_throw
        · refine annulment_kept ⟨rfl, rfl, rfl, rfl⟩ (fun next goesOn => ?_) fun next goesOn => ?_ <;>
            cases goesOn
          · exact ⟨fun _ => rfl, fun _ => rfl⟩
          · trivial
      | sendingAnnulment id =>
        cases answer with
        | ok =>
          cases made
          exact kept_of_throw
        | error | lost =>
          cases made
          refine kept_of_read (fun next goesOn => ?_) fun next goesOn => ?_ <;> cases goesOn
          · exact ⟨fun _ => rfl, fun _ => rfl⟩
          · trivial
      | releasingAnnulment id =>
        cases made
        exact annulment_kept ⟨rfl, rfl, rfl, rfl⟩
          goesOn_none goesOn_none
      | reviewingInvoice => exact reviewingInvoice_kept settled made
      | reviewingPayment => exact reviewingPayment_kept settled made
      | _ => exact known.elim
    · cases made

theorem HoldedKept.known_other {other : HoldedCall} (kept : HoldedKept s call db' rest)
    (known : other.Known s.db) : other.Known db' := by
  cases other with
  | reading args existing reserved =>
    cases reserved with
    | true => trivial
    | false => exact kept.linked _ known
  | approving task documentId =>
    cases documentId with
    | none => trivial
    | some _ => exact kept.linked _ known
  | approved => exact kept.linked _ known
  | issuing args existing fromHolded =>
    cases fromHolded with
    | none => exact known.elim
    | some _ => trivial
  | awaiting | linking | linked | updating | cancelling | making => exact known.elim
  | _ => trivial

theorem enterHoldedSync_call {request : HoldedSyncRequest}
    (entered : enterHoldedSync reg db request = some call) : call.Idle ∧ call.Known db := by
  cases request with
  | issue args =>
    rw [enterHoldedSync, beginHoldedIssue] at entered
    split at entered <;> cases entered
    exact ⟨⟨fun _ => rfl, fun _ => rfl⟩, trivial⟩
  | _ =>
    cases entered
    exact ⟨⟨fun _ => rfl, fun _ => rfl⟩, trivial⟩

structure HoldedOnce (s : State HoldedDb HoldedCall) : Prop where
  known : ∀ call ∈ s.running, call.Known s.db
  invoices : documentCustody.Once s
  payments : paymentCustody.Once s

theorem holdedOnce_next {running : List HoldedCall} {i : ℕ} (once : HoldedOnce ⟨db, running⟩)
    (settled : retryAfterAttempt ⟨db, running⟩ call input = true) (inTurn : documentKnown db call input = true)
    (found : running[i]? = some call) (made : nextHolded cfg reg sha db call input = some (db', rest)) :
    HoldedOnce ⟨db', resume running i rest⟩ := by
  have kept := nextHolded_kept (s := ⟨db, running⟩) (once.known call (List.mem_of_getElem? found)) settled inTurn
    made
  refine ⟨fun other mem => ?_, Custody.once_resume once.invoices found kept.invoices,
    Custody.once_resume once.payments found kept.payments⟩
  rcases mem_resume mem with before | next
  · exact kept.known_other (once.known other before)
  · exact kept.known other next

/-- The condition of a run: the one on retries, and the one on reservations. -/
def holdedInTurn (s : State HoldedDb HoldedCall) (call : HoldedCall) (input : HoldedInput) : Prop :=
  retryAfterAttempt s call input = true ∧ documentKnown s.db call input = true

instance (s : State HoldedDb HoldedCall) (call : HoldedCall) (input : HoldedInput) :
    Decidable (holdedInTurn s call input) :=
  inferInstanceAs (Decidable (_ ∧ _))

variable {t : State HoldedDb HoldedCall} {rows : Db} {payments : Table PaymentId HoldedPayment}

theorem opening_once : HoldedOnce ⟨.opening rows payments, []⟩ where
  known call mem := by cases mem
  invoices k := ⟨Nat.zero_le 1, fun made => (made rfl).elim⟩
  payments p := ⟨Nat.zero_le 1, fun made => (made rfl).elim⟩

/-- Of each invoice Holded has at most one document, and it has registered each payment at most once. -/
theorem holded_once
    (run : Run (holdedSyncSystem cfg reg sha).step (System.admitsIn holdedInTurn)
      ⟨.opening rows payments, []⟩ t) :
    (∀ k, t.db.documents.countP (fun r => r.invoiceId = some k) ≤ 1) ∧
      ∀ p, t.db.registered.count p ≤ 1 := by
  have once : HoldedOnce t := by
    refine System.invariant_in run opening_once (fun once entered => ?_)
      fun once fits found made => holdedOnce_next once fits.1 fits.2 found made
    obtain ⟨idle, known⟩ := enterHoldedSync_call entered
    refine ⟨fun call mem => ?_, Custody.once_start once.invoices idle.invoice,
      Custody.once_start once.payments idle.payment⟩
    rcases List.mem_append.mp mem with mem | mem
    · exact once.known call mem
    · rw [List.mem_singleton.mp mem]
      exact known
  exact ⟨Custody.once_made once.invoices, Custody.once_made once.payments⟩

/-! ### An answer without its id -/

def answersOf (day : Date) (answers : List HoldedAnswer) : List (Action HoldedSyncRequest HoldedInput) :=
  answers.map fun answer => .advance 0 (answeredAt day answer)

/-- An issue up to the creation of the document, and what comes of it. -/
def issueUntil (day : Date) (answers : List HoldedAnswer) : List (Action HoldedSyncRequest HoldedInput) :=
  .start (.issue (issueOf 0)) :: answersOf day ([.error, .error, .ok "" true] ++ answers)

/-- An issue whose approval is not answered and that is resumed, and a payment sent again after a review. -/
def issueAndPay : List (Action HoldedSyncRequest HoldedInput) :=
  issueUntil 20000 [.ok "d1" true, .error, .lost none] ++
    .start (.issue (issueOf 0)) :: answersOf 20001 [.error, .error, .ok "" true, .error, .ok "H-1" true, .error] ++
    .start (.invoicePaid 1 0) :: answersOf 20001 [.error, .error, .lost none] ++
    .start (.resolvePaymentReview 0 .retry) :: answersOf 20002 [.error] ++
    .start (.invoicePaid 1 0) :: answersOf 20002 [.error, .error, .ok "" true, .error, .error]

theorem holded_once_resumed : ∃ t : State HoldedDb HoldedCall,
    (t.db.documentIds = ["d1"] ∧ t.db.registered = [0] ∧ t.running.length = 0) ∧
      (∀ k, t.db.documents.countP (fun r => r.invoiceId = some k) ≤ 1) ∧
      ∀ p, t.db.registered.count p ≤ 1 := by
  obtain ⟨t, run, sent⟩ := Run.exists_of_exec (holdedSyncSystem generalRate oneTenant .bytes).step
    (System.admitsIn holdedInTurn) ⟨storageDb, []⟩ issueAndPay
    (fun t => t.db.documentIds = ["d1"] ∧ t.db.registered = [0] ∧ t.running.length = 0) (by decide +kernel)
  exact ⟨t, of_decide_eq_true sent, holded_once run⟩

/-- The body of the answer to a creation is cut off: the document is approved as `undefined`, and the next issue
creates another. -/
theorem holded_twice :
    ¬(∀ t, Run (holdedSyncSystem generalRate oneTenant .bytes).step
      (System.admitsIn fun s call input => retryAfterAttempt s call input = true) ⟨storageDb, []⟩ t →
      ∀ k, t.db.documents.countP (fun r => r.invoiceId = some k) ≤ 1) := by
  intro all
  obtain ⟨t, run, twice⟩ := Run.exists_of_exec (holdedSyncSystem generalRate oneTenant .bytes).step
    (System.admitsIn fun s call input => retryAfterAttempt s call input = true) ⟨storageDb, []⟩
    (issueUntil 20000 [.ok "d1" false, .error, .error] ++ issueUntil 20001 [.ok "d2" true])
    (fun t => decide (1 < t.db.documents.countP fun r => r.invoiceId = some 0)) (by decide +kernel)
  exact absurd (all t run 0) (not_le.mpr (of_decide_eq_true twice))

end StorageOS
