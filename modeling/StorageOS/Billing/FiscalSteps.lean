import StorageOS.Billing.Requests

/-! What a committed transaction does to the fiscal records and the series: nothing, a stamp on a
draft, a Holded number, other totals or dates, or an edit of a series. Every invariant of the
fiscal book is derived from this one case analysis. -/

namespace StorageOS

open Transition

def FiscalRecord.stamp (r : FiscalRecord) (s : Stamp) : FiscalRecord :=
  { r with
    draft := false
    invoiceNumber := s.invoiceNumber
    sequenceNumber := s.sequenceNumber
    issueDate := some s.issueDate
    hash := some s.hash
    previousHash := s.previousHash
    previousInvoiceId := s.previousInvoiceId
    chainSeq := some s.chainSeq
    aeatRecordTimestamp := some s.aeatRecordTimestamp }

def FiscalRecord.number (r : FiscalRecord) (number : String) (issueDate : Date) : FiscalRecord :=
  { r with draft := false, invoiceNumber := number, issueDate := some issueDate }

def FiscalRecord.withTotals (r : FiscalRecord) : Option (Totals × List InvoiceItem) → FiscalRecord
  | none => r
  | some (totals, _) => { r with taxAmount := totals.taxAmount, total := totals.total }

/-! ### Changes the fiscal book does not see -/

variable {id : InvoiceId} {tenant : Tenant} {issueDate : Date} {a : Account} {args : IssueArgs} {req : Request}
  {db : Db}

theorem Db.fiscal_modifyAccount {f : Account → Account} {f' : FiscalRecord → FiscalRecord}
    (h : ∀ a, (f a).fiscal = f' a.fiscal) : (db.modifyAccount id f).fiscal = db.fiscal.modify id f' :=
  Table.view_modify fun a _ => h a

theorem Db.fiscal_modifyAccount_same {f : Account → Account} (h : ∀ a, (f a).fiscal = a.fiscal) :
    (db.modifyAccount id f).fiscal = db.fiscal :=
  Table.view_modify_same fun a _ => h a

theorem InvoiceStatus.payable_ne_draft {s : InvoiceStatus} (h : s.payable = true) :
    s ≠ .draft := by
  rintro rfl
  simp [InvoiceStatus.payable] at h

theorem substituteOriginal_fiscal (clock : Clock) (a : Account) :
    (substituteOriginal clock a).fiscal = a.fiscal := by
  unfold substituteOriginal
  split
  · rename_i payable
    simp [Account.fiscal, InvoiceStatus.payable_ne_draft payable]
  · rfl

theorem compensateWithCredit_fiscal (clock : Clock) (creditCents : ℤ) (a : Account) :
    (compensateWithCredit clock creditCents a).fiscal = a.fiscal := by
  unfold compensateWithCredit
  simp only
  split
  · rfl
  · rename_i pays
    have payable : a.invoice.status.payable = true := by
      by_contra h
      exact pays (by simp [h])
    have := InvoiceStatus.payable_ne_draft payable
    simp only [Account.fiscal]
    split <;> simp [this]

theorem applyWithholding_fiscal (reg : Registry) (clock : Clock) (a : Account) :
    (applyWithholding reg clock a).fiscal = a.fiscal := by
  unfold applyWithholding
  simp only
  split
  · rfl
  · split
    · rfl
    · split
      · rfl
      · split <;> rfl

theorem compensateOriginal_same (clock : Clock) (existing : Invoice) (db : Db) :
    (compensateOriginal clock existing db).fiscal = db.fiscal ∧
      (compensateOriginal clock existing db).series = db.series := by
  unfold compensateOriginal
  split
  · split
    · exact ⟨Db.fiscal_modifyAccount_same (compensateWithCredit_fiscal clock _), rfl⟩
    · exact ⟨rfl, rfl⟩
  · exact ⟨rfl, rfl⟩

variable {existing : Invoice} {tenantId : TenantId} {clock : Clock} {invoiceId : InvoiceId} {db' : Db}

theorem issueRectification_same (h : issueRectification clock tenantId invoiceId existing db = .ok db') :
    db'.fiscal = db.fiscal ∧ db'.series = db.series := by
  unfold issueRectification at h
  split at h
  · cases h
    exact ⟨rfl, rfl⟩
  · obtain ⟨_, _, h⟩ := Outcome.bind_ok h
    cases h
    split
    · exact ⟨Db.fiscal_modifyAccount_same (substituteOriginal_fiscal clock), rfl⟩
    · exact ⟨rfl, rfl⟩

/-! ### Issue -/

/-- A number of a series in use: the series it was read from, and the series after it. -/
structure Reserved (db : Db) (tenantId : TenantId) (seriesId : SeriesId) (issueDate : Date)
    (series before : InvoiceSeries) : Prop where
  found : db.findSeries tenantId seriesId = some before
  after : series = before.reserve (Gregorian.year issueDate)
  inOrder : ∀ last ∈ db.fiscal.lastInSeries tenantId seriesId, last.1 ≤ issueDate

variable {reg : Registry} {sha : Sha256}

theorem issueStamp_ok {stamp : Stamp} {series : InvoiceSeries}
    (h : issueStamp reg sha clock tenantId tenant existing issueDate db = .ok (stamp, series)) :
    ∃ before, Reserved db tenantId existing.seriesId issueDate series before ∧
      stamp = computeChainedHash sha clock db.fiscal tenantId existing.ownerId
        (emitterTaxId reg tenantId existing.ownerId)
        (formatInvoiceNumber series (series.nextNumber - 1) issueDate) (series.nextNumber - 1)
        issueDate existing.invoiceType existing.taxAmount existing.total := by
  obtain ⟨⟨sequenceNumber, series'⟩, reserved, h⟩ := Outcome.bind_ok h
  obtain ⟨_, ordered, h⟩ := Outcome.bind_ok h
  obtain ⟨_, _, h⟩ := Outcome.bind_ok h
  obtain ⟨_, _, h⟩ := Outcome.bind_ok h
  obtain ⟨before, found, reserved⟩ := Outcome.bind_ok reserved
  obtain ⟨_, _, reserved⟩ := Outcome.bind_ok reserved
  cases reserved
  cases h
  refine ⟨before, ⟨orMissing_ok found, rfl, fun last hlast => ?_⟩, rfl⟩
  rw [Option.mem_def] at hlast
  rw [hlast] at ordered
  exact not_lt.mp (refuseIf_ok ordered)

variable {settled : Bool} {fromHolded : Option HoldedDocument} {scope : Option (List FacilityId)} {mode : InvoicingMode}
  {s s' : BillingState}

/-- The transaction of an issue stamps the record of the invoice, and takes a number of its
series. -/
theorem issueInApp_ok
    (h : issueInApp reg sha clock tenantId tenant invoiceId existing settled issueDate db = .ok db') :
    ∃ stamp series, issueStamp reg sha clock tenantId tenant existing issueDate db =
        .ok (stamp, series) ∧
      db'.fiscal = db.fiscal.modify invoiceId (·.stamp stamp) ∧
      db'.series = db.series.modify existing.seriesId fun _ => series := by
  obtain ⟨⟨stamp, series⟩, stamped, h⟩ := Outcome.bind_ok h
  obtain ⟨_, _, h⟩ := Outcome.bind_ok h
  refine ⟨stamp, series, stamped, ?_⟩
  have row : ∀ (a : Account) (dueDate : Date), ({ a with
      invoice := (settleAtIssue clock settled existing.total dueDate a.invoice).stamp stamp } :
      Account).fiscal = a.fiscal.stamp stamp := by
    intro a dueDate
    unfold settleAtIssue
    cases settled <;> rfl
  have issued : ∀ (dueDate : Date), (Db.modifyAccount
      { db with series := db.series.modify existing.seriesId fun _ => series } invoiceId fun a =>
        if settled then { a with
          invoice := (settleAtIssue clock settled existing.total dueDate a.invoice).stamp stamp }
        else applyWithholding reg clock { a with
          invoice := (settleAtIssue clock settled existing.total dueDate a.invoice).stamp stamp }
      ).fiscal = db.fiscal.modify invoiceId (·.stamp stamp) := by
    intro dueDate
    refine Db.fiscal_modifyAccount fun a => ?_
    split
    · exact row a dueDate
    · rw [applyWithholding_fiscal, row a dueDate]
  cases h
  split
  · obtain ⟨hfiscal, hseries⟩ := compensateOriginal_same clock existing (Db.modifyAccount
      { db with series := db.series.modify existing.seriesId fun _ => series } invoiceId _)
    exact ⟨hfiscal.trans (issued _), hseries⟩
  · exact ⟨issued _, rfl⟩

theorem issueFromHolded_ok {doc : HoldedDocument}
    (h : issueFromHolded reg clock tenantId tenant invoiceId existing settled issueDate doc db = .ok db') :
    db'.fiscal = db.fiscal.modify invoiceId (·.number doc.number issueDate) ∧
      db'.series = db.series := by
  obtain ⟨_, _, h⟩ := Outcome.bind_ok h
  cases h
  obtain ⟨hfiscal, hseries⟩ := compensateOriginal_same clock existing (db.modifyAccount invoiceId _)
  refine ⟨hfiscal.trans (Db.fiscal_modifyAccount fun a => ?_), hseries⟩
  unfold settleAtIssue
  cases settled
  · exact applyWithholding_fiscal reg clock _
  · rfl

/-! ### Every commit -/

/-- The record of an invoice that a transaction of a tenant has found to be a draft. -/
def FiscalBook.IsDraft (book : FiscalBook) (tenantId : TenantId) (id : InvoiceId) : Prop :=
  ∃ r, book.find id = some r ∧ r.tenantId = tenantId ∧ r.draft = true

theorem Db.findAccount_some (h : db.findAccount tenantId id = some a) :
    db.accounts.find id = some a ∧ a.invoice.tenantId = tenantId := by
  simpa [Db.findAccount, Option.filter_eq_some_iff] using h

theorem Db.fiscal_find (h : db.accounts.find id = some a) : db.fiscal.find id = some a.fiscal := by
  rw [Db.fiscal, Table.find_view, h]
  rfl

theorem isDraft_of_findAccount (found : db.findAccount tenantId id = some a) (draft : a.invoice.status = .draft) :
    db.fiscal.IsDraft tenantId id := by
  obtain ⟨hfind, htenant⟩ := Db.findAccount_some found
  exact ⟨a.fiscal, Db.fiscal_find hfind, htenant, by simp [Account.fiscal, draft]⟩

/-- What the commit of a request does to the fiscal book and the series. -/
inductive FiscalCommit (reg : Registry) (sha : Sha256) (clock : Clock) (db db' : Db) :
    Request → Prop
  | same {req : Request} (book : db'.fiscal = db.fiscal) (series : db'.series = db.series) :
      FiscalCommit reg sha clock db db' req
  | dated {args : IssueArgs} {existing : Invoice} (issueDate : Date)
      (draft : db.fiscal.IsDraft args.tenantId args.invoiceId)
      (book : db'.fiscal = db.fiscal.modify args.invoiceId fun r =>
        { r with issueDate := some issueDate })
      (series : db'.series = db.series) :
      FiscalCommit reg sha clock db db' (.issueInHolded args existing)
  | numbered {args : IssueArgs} {existing : Invoice} {doc : HoldedDocument} (issueDate : Date)
      (draft : db.fiscal.IsDraft args.tenantId args.invoiceId)
      (book : db'.fiscal = db.fiscal.modify args.invoiceId (·.number doc.number issueDate))
      (series : db'.series = db.series) :
      FiscalCommit reg sha clock db db' (.issue args existing (some doc))
  | stamped {args : IssueArgs} {existing : Invoice} {after before : InvoiceSeries}
      (draft : db.fiscal.IsDraft args.tenantId args.invoiceId)
      (reserved : Reserved db args.tenantId existing.seriesId
        (existing.issueDate.getD clock.today) after before)
      (book : db'.fiscal = db.fiscal.modify args.invoiceId (·.stamp
        (computeChainedHash sha clock db.fiscal args.tenantId existing.ownerId
          (emitterTaxId reg args.tenantId existing.ownerId)
          (formatInvoiceNumber after (after.nextNumber - 1)
            (existing.issueDate.getD clock.today))
          (after.nextNumber - 1) (existing.issueDate.getD clock.today)
          existing.invoiceType existing.taxAmount existing.total)))
      (series : db'.series = db.series.modify existing.seriesId fun _ => after) :
      FiscalCommit reg sha clock db db' (.issue args existing none)
  | edited {args : UpdateArgs} {existing : Invoice} (keep : Bool)
      (lines : Option (Totals × List InvoiceItem))
      (computed : updatedItems args.input = .ok lines)
      (book : db'.fiscal = db.fiscal.modify args.invoiceId fun r =>
        { r.withTotals lines with draft := r.draft && keep })
      (series : db'.series = db.series) :
      FiscalCommit reg sha clock db db' (.update args existing)
  | seriesEdited {args : UpdateSeriesArgs} {existing : InvoiceSeries}
      (book : db'.fiscal = db.fiscal)
      (series : db'.series = (db.series.view (unmarkDefault args.tenantId existing args.input)).modify
        args.seriesId (·.edit args.input)) :
      FiscalCommit reg sha clock db db' (.seriesWrite args existing)

theorem issueTx_commit
    (h : issueTx reg sha clock args.tenantId args.invoiceId existing args.settleZero fromHolded db = .ok db') :
    FiscalCommit reg sha clock db db' (.issue args existing fromHolded) := by
  obtain ⟨_, isDraft, h⟩ := Outcome.bind_ok h
  obtain ⟨db1, rectified, h⟩ := Outcome.bind_ok h
  obtain ⟨tenant, _, h⟩ := Outcome.bind_ok h
  obtain ⟨hfiscal, hseries⟩ := issueRectification_same rectified
  have draft : db.fiscal.IsDraft args.tenantId args.invoiceId := by
    have status := not_not.mp (refuseIf_ok isDraft)
    obtain ⟨a, found, hstatus⟩ := Option.map_eq_some_iff.mp status
    exact isDraft_of_findAccount found hstatus
  cases fromHolded with
  | some doc =>
    obtain ⟨book, series⟩ := issueFromHolded_ok h
    exact .numbered _ draft (hfiscal ▸ book) (series.trans hseries)
  | none =>
    obtain ⟨stamp, after, stamped, book, series⟩ := issueInApp_ok h
    obtain ⟨before, reserved, rfl⟩ := issueStamp_ok stamped
    have reserved' : Reserved db args.tenantId existing.seriesId
        (existing.issueDate.getD clock.today) after before := by
      refine ⟨?_, reserved.after, ?_⟩
      · have := reserved.found
        rwa [Db.findSeries, hseries] at this
      · have := reserved.inOrder
        rwa [hfiscal] at this
    exact .stamped draft reserved' (hfiscal ▸ book) (hseries ▸ series)

theorem issueInHoldedTx_commit (h : issueInHoldedTx reg clock args.tenantId args.invoiceId existing db = .ok db') :
    FiscalCommit reg sha clock db db' (.issueInHolded args existing) := by
  obtain ⟨fresh, found, h⟩ := Outcome.bind_ok h
  obtain ⟨_, isDraft, h⟩ := Outcome.bind_ok h
  obtain ⟨_, _, h⟩ := Outcome.bind_ok h
  obtain ⟨_, _, h⟩ := Outcome.bind_ok h
  split at h
  · cases h
    exact .same rfl rfl
  · obtain ⟨tenant, _, h⟩ := Outcome.bind_ok h
    cases h
    exact .dated _ (isDraft_of_findAccount (orMissing_ok found) (not_not.mp (refuseIf_ok isDraft)))
      (Db.fiscal_modifyAccount fun _ => rfl) rfl

theorem updateTx_commit {args : UpdateArgs}
    (h : updateTx clock args.tenantId args.invoiceId existing args.input db = .ok db') :
    FiscalCommit reg sha clock db db' (.update args existing) := by
  obtain ⟨lines, computed, h⟩ := Outcome.bind_ok h
  obtain ⟨_, _, h⟩ := Outcome.bind_ok h
  cases h
  refine .edited (!postponed clock existing args.input) lines computed
    (Db.fiscal_modifyAccount fun a => ?_) rfl
  unfold Invoice.edit
  cases postponed clock existing args.input <;> cases lines <;>
    simp [Account.fiscal, Invoice.withTotals, FiscalRecord.withTotals]

theorem commitRequest_commit {next : Option Request} (h : commitRequest reg sha clock db req = .ok (db', next)) :
    FiscalCommit reg sha clock db db' req := by
  cases req with
  | awaitHoldedCreditNote args existing =>
    obtain ⟨db1, committed, h⟩ := Outcome.bind_ok h
    cases h
    obtain ⟨_, _, committed⟩ := Outcome.bind_ok committed
    cases committed
    refine .same (Db.fiscal_modifyAccount_same fun a => ?_) rfl
    split <;> rfl
  | issueInHolded args existing =>
    obtain ⟨db1, committed, h⟩ := Outcome.bind_ok h
    cases h
    exact issueInHoldedTx_commit committed
  | holdedCall args existing => cases h
  | issue args existing fromHolded =>
    obtain ⟨db1, committed, h⟩ := Outcome.bind_ok h
    cases h
    exact issueTx_commit committed
  | update args existing =>
    obtain ⟨db1, committed, h⟩ := Outcome.bind_ok h
    cases h
    exact updateTx_commit committed
  | seriesCount args existing =>
    obtain ⟨_, _, h⟩ := Outcome.bind_ok h
    cases h
    exact .same rfl rfl
  | seriesWrite args existing =>
    obtain ⟨db1, committed, h⟩ := Outcome.bind_ok h
    cases h
    obtain ⟨_, _, committed⟩ := Outcome.bind_ok committed
    cases committed
    exact .seriesEdited rfl rfl

/-! ### Requests and the rows they have read -/

structure Header where
  tenantId : TenantId
  ownerId : Option OwnerId
  seriesId : SeriesId
  invoiceType : InvoiceType
  deriving DecidableEq

def FiscalRecord.header (r : FiscalRecord) : Header :=
  ⟨r.tenantId, r.ownerId, r.seriesId, r.invoiceType⟩

theorem FiscalRecord.header_withTotals (r : FiscalRecord)
    (lines : Option (Totals × List InvoiceItem)) : (r.withTotals lines).header = r.header := by
  cases lines <;> rfl

theorem FiscalCommit.headers (commit : FiscalCommit reg sha clock db db' req) :
    db'.fiscal.view FiscalRecord.header = db.fiscal.view FiscalRecord.header := by
  cases commit with
  | same book => rw [book]
  | dated _ _ book =>
    rw [book]
    exact Table.view_modify_same fun _ _ => rfl
  | numbered _ _ book =>
    rw [book]
    exact Table.view_modify_same fun _ _ => rfl
  | stamped _ _ book =>
    rw [book]
    exact Table.view_modify_same fun _ _ => rfl
  | edited _ lines _ book =>
    rw [book]
    exact Table.view_modify_same fun r _ => r.header_withTotals lines
  | seriesEdited book => rw [book]

/-- The row of an invoice still has the fixed fields that a request has read. -/
def FiscalBook.Keeps (book : FiscalBook) (tenantId : TenantId) (id : InvoiceId)
    (existing : Invoice) : Prop :=
  (book.view FiscalRecord.header).find id =
    some ⟨tenantId, existing.ownerId, existing.seriesId, existing.invoiceType⟩

def Request.Coherent (book : FiscalBook) : Request → Prop
  | .awaitHoldedCreditNote args existing => book.Keeps args.tenantId args.invoiceId existing
  | .issueInHolded args existing => book.Keeps args.tenantId args.invoiceId existing
  | .holdedCall args existing => book.Keeps args.tenantId args.invoiceId existing
  | .issue args existing _ => book.Keeps args.tenantId args.invoiceId existing
  | .update args existing => book.Keeps args.tenantId args.invoiceId existing
  | .seriesCount _ _ => True
  | .seriesWrite _ _ => True

def BillingState.Coherent (s : BillingState) : Prop :=
  ∀ r req, s.requests r = some req → req.Coherent s.db.fiscal

theorem Request.Coherent.of_headers {book book' : FiscalBook}
    (h : book'.view FiscalRecord.header = book.view FiscalRecord.header) (coherent : req.Coherent book) :
    req.Coherent book' := by
  cases req <;> simp only [Request.Coherent, FiscalBook.Keeps, h] at coherent ⊢ <;>
    exact coherent

theorem findOrThrow_account (h : findOrThrow reg db tenantId invoiceId scope = .ok existing) :
    ∃ a, db.accounts.find invoiceId = some a ∧ a.invoice.tenantId = tenantId ∧
      a.invoice = existing ∧ existing.deletedAt = none := by
  unfold findOrThrow at h
  split at h
  · cases h
  · rename_i a found
    obtain ⟨row, tenant⟩ := Db.findAccount_some found
    split at h
    · cases h
    · rename_i kept
      simp only at h
      split at h
      · cases h
        exact ⟨a, row, tenant, rfl, not_not.mp kept⟩
      · cases h

theorem findOrThrow_keeps (h : findOrThrow reg db tenantId invoiceId scope = .ok existing) :
    db.fiscal.Keeps tenantId invoiceId existing := by
  obtain ⟨a, found, tenant, rfl, -⟩ := findOrThrow_account h
  rw [FiscalBook.Keeps, Table.find_view, Db.fiscal_find found, ← tenant]
  rfl

theorem beginIssue_coherent (h : beginIssue reg db args mode = .ok req) : req.Coherent db.fiscal := by
  obtain ⟨existing, found, h⟩ := Outcome.bind_ok h
  obtain ⟨_, _, h⟩ := Outcome.bind_ok h
  obtain ⟨_, _, h⟩ := Outcome.bind_ok h
  have keeps := findOrThrow_keeps found
  simp only at h
  split at h
  · cases h
    exact keeps
  · cases h
    exact keeps
  · split at h
    · split at h
      · cases h
      · cases h
        exact keeps
    · cases h
      exact keeps

theorem beginUpdate_coherent {args : UpdateArgs} (h : beginUpdate reg db args = .ok req) :
    req.Coherent db.fiscal := by
  obtain ⟨existing, found, h⟩ := Outcome.bind_ok h
  obtain ⟨_, _, h⟩ := Outcome.bind_ok h
  cases h
  exact findOrThrow_keeps found

theorem beginSeriesUpdate_coherent {args : UpdateSeriesArgs} (h : beginSeriesUpdate db args = .ok req) :
    req.Coherent db.fiscal := by
  unfold beginSeriesUpdate at h
  split at h
  · cases h
  · obtain ⟨_, _, h⟩ := Outcome.bind_ok h
    cases h
    split <;> exact trivial

theorem commitRequest_coherent {req next : Request} (h : commitRequest reg sha clock db req = .ok (db', some next))
    (coherent : req.Coherent db.fiscal) : next.Coherent db.fiscal := by
  cases req with
  | issueInHolded args existing =>
    obtain ⟨_, _, h⟩ := Outcome.bind_ok h
    cases h
    exact coherent
  | seriesCount args existing =>
    obtain ⟨_, _, h⟩ := Outcome.bind_ok h
    cases h
    exact trivial
  | holdedCall args existing => cases h
  | awaitHoldedCreditNote args existing =>
    obtain ⟨_, _, h⟩ := Outcome.bind_ok h
    cases h
  | issue args existing fromHolded =>
    obtain ⟨_, _, h⟩ := Outcome.bind_ok h
    cases h
  | update args existing =>
    obtain ⟨_, _, h⟩ := Outcome.bind_ok h
    cases h
  | seriesWrite args existing =>
    obtain ⟨_, _, h⟩ := Outcome.bind_ok h
    cases h

/-! ### Steps -/

theorem billingStep_db {a : BillingAction} (h : billingStep reg sha s a = some s') :
    s'.db = s.db ∨ ∃ r clock req next, a = .commit r clock ∧ s.requests r = some req ∧
      commitRequest reg sha clock s.db req = .ok (s'.db, next) := by
  have arrives : ∀ {r read}, s.arrive r read = some s' → s'.db = s.db := by
    intro r read h
    unfold BillingState.arrive at h
    split at h <;> cases h <;> rfl
  cases a with
  | issue r args mode => exact .inl (arrives h)
  | update r args => exact .inl (arrives h)
  | updateSeries r args => exact .inl (arrives h)
  | commit r clock =>
    simp only [billingStep] at h
    split at h
    · cases h
    · rename_i req found
      split at h
      · cases h
        exact .inl rfl
      · rename_i db next committed
        cases h
        exact .inr ⟨r, clock, req, next, rfl, found, committed⟩
  | holdedAnswer r doc =>
    simp only [billingStep] at h
    split at h <;> cases h
    exact .inl rfl
  | fail r =>
    simp only [billingStep, Option.map_eq_some_iff] at h
    obtain ⟨_, _, rfl⟩ := h
    exact .inl rfl

theorem coherent_step {a : BillingAction} (coherent : s.Coherent) (h : billingStep reg sha s a = some s') :
    s'.Coherent := by
  have set : ∀ {r : ℕ} {next : Option Request} {db : Db},
      db.fiscal.view FiscalRecord.header = s.db.fiscal.view FiscalRecord.header →
      (∀ req, next = some req → req.Coherent s.db.fiscal) →
      BillingState.Coherent { s.setRequest r next with db } := by
    intro r next db headers hnext r' req hreq
    refine Request.Coherent.of_headers headers ?_
    simp only [BillingState.setRequest, Function.update_apply] at hreq
    split at hreq
    · exact hnext req hreq
    · exact coherent r' req hreq
  have arrives : ∀ {r read}, (∀ req, read = .ok req → req.Coherent s.db.fiscal) →
      s.arrive r read = some s' → s'.Coherent := by
    intro r read hread h
    unfold BillingState.arrive at h
    split at h
    · cases h
    · cases h
      exact coherent
    · cases h
      refine set rfl fun req hreq => ?_
      cases hreq
      exact hread _ rfl
  cases a with
  | issue r args mode => exact arrives (fun _ => beginIssue_coherent) h
  | update r args => exact arrives (fun _ => beginUpdate_coherent) h
  | updateSeries r args => exact arrives (fun _ => beginSeriesUpdate_coherent) h
  | commit r clock =>
    simp only [billingStep] at h
    split at h
    · cases h
    · rename_i req found
      split at h
      · cases h
        exact set rfl fun req hreq => by cases hreq
      · rename_i db next committed
        cases h
        refine set (commitRequest_commit committed).headers fun req' hreq => ?_
        cases hreq
        exact commitRequest_coherent committed (coherent r req found)
  | holdedAnswer r doc =>
    simp only [billingStep] at h
    split at h
    · rename_i args existing found
      cases h
      refine set rfl fun req hreq => ?_
      cases hreq
      exact coherent r (.holdedCall args existing) found
    · cases h
  | fail r =>
    simp only [billingStep, Option.map_eq_some_iff] at h
    obtain ⟨_, _, rfl⟩ := h
    exact set rfl fun req hreq => by cases hreq

/-! The issue of an invoice as a view of the invoices sees it, for any view that withholdings and
credits do not change. -/

theorem InvoiceStatus.payable_ne_cancelled {s : InvoiceStatus} (h : s.payable = true) :
    s ≠ .cancelled := by
  rintro rfl
  simp [InvoiceStatus.payable] at h

/-- The view `g` sees an issue as the change `f` of the issued row. -/
structure IssueView {β : Type} (reg : Registry) (clock : Clock) (g : Account → β) (f : β → β) :
    Prop where
  withholding : ∀ a, a.invoice.status ≠ .draft → g (applyWithholding reg clock a) = g a
  credit : ∀ creditCents a, g (compensateWithCredit clock creditCents a) = g a
  numbered : ∀ (doc : HoldedDocument) settled total dueDate issueDate a, g { a with
    invoice := { settleAtIssue clock settled total dueDate a.invoice with
      invoiceNumber := doc.number
      issueDate := some issueDate
      issuedBy := .holded
      holdedDocumentId := some doc.documentId
      holdedSyncState := none } } = f (g a)
  stamped : ∀ stamp settled total dueDate a, g { a with
    invoice := (settleAtIssue clock settled total dueDate a.invoice).stamp stamp } = f (g a)

theorem settleAtIssue_ne_draft (clock : Clock) (settled : Bool) (total : ℤ) (dueDate : Date)
    (i : Invoice) : (settleAtIssue clock settled total dueDate i).status ≠ .draft := by
  unfold settleAtIssue
  split <;> simp

section

variable {β : Type} {reg : Registry} {sha : Sha256} {clock : Clock} {g : Account → β} {f : β → β}
  {db db' : Db} {tenantId : TenantId} {invoiceId : InvoiceId} {existing : Invoice}

theorem IssueView.compensateOriginal (v : IssueView reg clock g f) (existing : Invoice) (db : Db) :
    (compensateOriginal clock existing db).accounts.view g = db.accounts.view g := by
  unfold StorageOS.compensateOriginal
  split
  · split
    · exact Table.view_modify_same fun a _ => v.credit _ a
    · rfl
  · rfl

theorem IssueView.issueTx (v : IssueView reg clock g f) {settleZero : Bool}
    (h : issueTx reg sha clock tenantId invoiceId existing settleZero fromHolded db = .ok db') :
    (∃ a, db.findAccount tenantId invoiceId = some a ∧ a.invoice.status = .draft) ∧
      ∃ rectified, issueRectification clock tenantId invoiceId existing db = .ok rectified ∧
        db'.accounts.view g = (rectified.accounts.view g).modify invoiceId f := by
  obtain ⟨_, isDraft, h⟩ := Outcome.bind_ok h
  obtain ⟨rectified, checked, h⟩ := Outcome.bind_ok h
  obtain ⟨tenant, _, h⟩ := Outcome.bind_ok h
  refine ⟨Option.map_eq_some_iff.mp (not_not.mp (refuseIf_ok isDraft)), rectified, checked, ?_⟩
  cases fromHolded with
  | some doc =>
    obtain ⟨_, _, h⟩ := Outcome.bind_ok h
    cases h
    rw [v.compensateOriginal]
    refine Table.view_modify fun a _ => ?_
    split
    · exact v.numbered doc ..
    · refine (v.withholding _ ?_).trans (v.numbered doc ..)
      exact settleAtIssue_ne_draft _ _ _ _ _
  | none =>
    obtain ⟨⟨stamp, series⟩, _, h⟩ := Outcome.bind_ok h
    obtain ⟨_, _, h⟩ := Outcome.bind_ok h
    cases h
    have row : ∀ (settled : Bool) (dueDate : Date) (a : Account),
        g (if settled then { a with
          invoice := (settleAtIssue clock settled existing.total dueDate a.invoice).stamp stamp }
        else applyWithholding reg clock { a with
          invoice := (settleAtIssue clock settled existing.total dueDate a.invoice).stamp stamp }) =
        f (g a) := by
      intro settled dueDate a
      split
      · exact v.stamped ..
      · refine (v.withholding _ ?_).trans (v.stamped ..)
        exact settleAtIssue_ne_draft _ _ _ _ _
    split
    · rw [v.compensateOriginal]
      exact Table.view_modify fun a _ => row _ _ a
    · exact Table.view_modify fun a _ => row _ _ a

theorem awaitHoldedCreditNoteTx_view
    (same : ∀ a : Account, g { a with invoice := { a.invoice with
      holdedSyncState := some .awaitingHolded, issuedBy := .holded } } = g a)
    (h : awaitHoldedCreditNoteTx tenantId invoiceId existing db = .ok db') :
    db'.accounts.view g = db.accounts.view g := by
  obtain ⟨_, -, h⟩ := Outcome.bind_ok h
  cases h
  refine Table.view_modify_same fun a _ => ?_
  split
  · exact same a
  · rfl

theorem issueInHoldedTx_view
    (same : ∀ (a : Account) issueDate dueDate, g { a with invoice := { a.invoice with
      holdedSyncState := some .creating, issueDate := some issueDate, dueDate } } = g a)
    (h : issueInHoldedTx reg clock tenantId invoiceId existing db = .ok db') :
    db'.accounts.view g = db.accounts.view g := by
  obtain ⟨_, -, h⟩ := Outcome.bind_ok h
  obtain ⟨_, -, h⟩ := Outcome.bind_ok h
  obtain ⟨_, -, h⟩ := Outcome.bind_ok h
  obtain ⟨_, -, h⟩ := Outcome.bind_ok h
  split at h
  · cases h
    rfl
  · obtain ⟨_, -, h⟩ := Outcome.bind_ok h
    cases h
    exact Table.view_modify_same fun a _ => same a _ _

theorem beginIssue_ok (h : beginIssue reg db args mode = .ok req) :
    ∃ a, db.accounts.find args.invoiceId = some a ∧ a.invoice.tenantId = args.tenantId ∧
      (req = .awaitHoldedCreditNote args a.invoice ∧ a.invoice.rectifiesInvoiceId ≠ none ∨
        req = .issueInHolded args a.invoice ∨
        ∃ fromHolded, req = .issue args a.invoice fromHolded) := by
  obtain ⟨existing, found, h⟩ := Outcome.bind_ok h
  obtain ⟨_, -, h⟩ := Outcome.bind_ok h
  obtain ⟨_, -, h⟩ := Outcome.bind_ok h
  obtain ⟨a, row, tenant, rfl, -⟩ := findOrThrow_account found
  refine ⟨a, row, tenant, ?_⟩
  simp only at h
  split at h
  · cases h
    exact .inr (.inr ⟨_, rfl⟩)
  · cases h
    exact .inr (.inr ⟨_, rfl⟩)
  · split at h
    · rename_i rectifies
      split at h
      · cases h
      · cases h
        exact .inl ⟨rfl, Option.isSome_iff_ne_none.mp rectifies⟩
    · cases h
      exact .inr (.inl rfl)

end

end StorageOS
