import StorageOS.Billing.RectificationBook

/-! The bound of the rectifications of an issued invoice: what its rectifications by differences give
back stays within its total. -/

namespace StorageOS

open Transition

/-! ### The bound -/

/-- An invoice that is no draft keeps its total, and its issued rectifications leave it at zero or
above. -/
structure RectificationsBounded (o : InvoiceId) (total : ℤ) (book : RectificationBook) : Prop where
  sound : RectificationsSound book
  original : ∃ r, book.find o = some r ∧ r.draft = false ∧ r.total = total
  bound : 0 ≤ total + book.issued o

variable {f : RectificationRecord → RectificationRecord} {existing : Invoice} {s t : RectificationState}

theorem RectificationsSound.modify {book : RectificationBook} (sound : RectificationsSound book) {id : InvoiceId}
    (same : ∀ r, (f r).tenantId = r.tenantId ∧ (f r).kind = r.kind ∧
      (f r).invoiceType = r.invoiceType ∧ (f r).rectifies = r.rectifies) :
    RectificationsSound (book.modify id f) := by
  have back : ∀ k r, (book.modify id f).find k = some r → ∃ r', book.find k = some r' ∧
      r.tenantId = r'.tenantId ∧ r.kind = r'.kind ∧ r.invoiceType = r'.invoiceType ∧
      r.rectifies = r'.rectifies := by
    intro k r found
    rcases Table.find_modify_cases found with ⟨-, found⟩ | ⟨rfl, r', before, rfl⟩
    · exact ⟨r, found, rfl, rfl, rfl, rfl⟩
    · exact ⟨r', before, same r'⟩
  have forth : ∀ k r, book.find k = some r →
      ∃ r', (book.modify id f).find k = some r' ∧ r'.tenantId = r.tenantId := by
    intro k r found
    rw [Table.find_modify]
    split
    · exact ⟨f r, by rw [found]; rfl, (same r).1⟩
    · exact ⟨r, found, rfl⟩
  intro k r o found rectifies
  obtain ⟨r', found', tenant, kind, type, target⟩ := back k r found
  obtain ⟨isInvoice, notF1, notF2, original, foundOriginal, sameTenant⟩ :=
    sound k r' o found' (target ▸ rectifies)
  obtain ⟨original', foundOriginal', kept⟩ := forth o original foundOriginal
  exact ⟨kind ▸ isInvoice, type ▸ notF1, type ▸ notF2, original', foundOriginal',
    by rw [kept, sameTenant, tenant]⟩

namespace RectificationsBounded

variable {o id : InvoiceId} {total : ℤ} {book : RectificationBook} {r : RectificationRecord}

variable (b : RectificationsBounded o total book)
include b

theorem push (draft : r.draft = true) (kind : r.kind = .invoice) (notF1 : r.invoiceType ≠ .F1)
    (notF2 : r.invoiceType ≠ .F2)
    (original : ∀ o', r.rectifies = some o' →
      ∃ original, book.find o' = some original ∧ original.tenantId = r.tenantId) :
    RectificationsBounded o total (book.push r) where
  sound := by
    intro k r' o' found rectifies
    rw [Table.find_push] at found
    split at found
    · cases found
      obtain ⟨original', found', tenant⟩ := original o' rectifies
      exact ⟨kind, notF1, notF2, original', Table.find_push_of_some found' r, tenant⟩
    · obtain ⟨kind', notF1', notF2', original', found', tenant⟩ := b.sound k r' o' found rectifies
      exact ⟨kind', notF1', notF2', original', Table.find_push_of_some found' r, tenant⟩
  original := by
    obtain ⟨original', found, row⟩ := b.original
    exact ⟨original', Table.find_push_of_some found r, row⟩
  bound := by
    rw [RectificationBook.issued, Table.sum_push]
    simpa [draft, RectificationBook.issued] using b.bound

variable (found : book.find id = some r)
include found

/-- A change of a row: what it adds to the issued rectifications is within the bound. -/
theorem modify
    (same : ∀ r, (f r).tenantId = r.tenantId ∧ (f r).kind = r.kind ∧
      (f r).invoiceType = r.invoiceType ∧ (f r).rectifies = r.rectifies)
    (own : id = o → (f r).draft = false ∧ (f r).total = r.total)
    (bound : 0 ≤ total + (book.issued o + ((if (f r).differs o && !(f r).draft then (f r).total
      else 0) - if r.differs o && !r.draft then r.total else 0))) :
    RectificationsBounded o total (book.modify id f) where
  sound := b.sound.modify same
  original := by
    obtain ⟨original, foundOriginal, draft, unchanged⟩ := b.original
    rw [Table.find_modify]
    split
    · rename_i self
      subst self
      rw [found] at foundOriginal
      cases foundOriginal
      exact ⟨f r, by rw [found]; rfl, (own rfl).1, (own rfl).2.trans unchanged⟩
    · exact ⟨original, foundOriginal, draft, unchanged⟩
  bound := by
    rw [RectificationBook.issued, Table.sum_modify found]
    exact bound

theorem edit (draft : r.draft = true) (newTotal : ℤ) :
    RectificationsBounded o total (book.modify id fun r => { r with total := newTotal }) := by
  refine b.modify found (fun r => ⟨rfl, rfl, rfl, rfl⟩) ?_ ?_
  · rintro rfl
    obtain ⟨original, foundOriginal, issued, -⟩ := b.original
    rw [found] at foundOriginal
    cases foundOriginal
    exact absurd draft (by simp [issued])
  · simpa [draft] using b.bound

theorem cancel (unissued : r.draft = true ∨ r.kind = .depositReceipt) :
    RectificationsBounded o total
      (book.modify id fun r => { r with draft := false, cancelled := true }) := by
  refine b.modify found (fun r => ⟨rfl, rfl, rfl, rfl⟩) (fun _ => ⟨rfl, rfl⟩) ?_
  have uncounted : (r.differs o && !r.draft) = false := by
    rcases unissued with draft | receipt
    · simp [draft]
    · have other : r.rectifies ≠ some o := fun rectifies => by
        have := (b.sound id r o found rectifies).1
        simp [receipt] at this
      simp [RectificationRecord.differs, other]
  have gone : RectificationRecord.differs o { r with draft := false, cancelled := true } = false := by
    simp [RectificationRecord.differs]
  rw [uncounted, gone]
  simpa using b.bound

/-- A draft is issued, after its limits have been checked with the other drafts. -/
theorem issue (draft : r.draft = true) (active : r.cancelled = false)
    (limits : r.differs o = true → 0 ≤ total + book.issued o + book.drafted o)
    (alone : r.differs o = true → book.drafted o ≤ r.total) :
    RectificationsBounded o total (book.modify id RectificationRecord.issue) := by
  refine b.modify found (fun r => ⟨rfl, rfl, rfl, rfl⟩) (fun _ => ⟨rfl, rfl⟩) ?_
  have differs : r.issue.differs o = r.differs o := by
    simp only [RectificationRecord.differs, RectificationRecord.issue, active]
    rfl
  rw [differs]
  cases counts : r.differs o with
  | false => simpa using b.bound
  | true =>
    have := limits counts
    have := alone counts
    simp only [RectificationRecord.issue, draft, Bool.not_false, Bool.not_true, Bool.and_true,
      Bool.and_false, if_true, Bool.false_eq_true, if_false, Int.sub_zero]
    lia

end RectificationsBounded

/-! ### Each operation -/

theorem RectificationType.invoiceType_ne (t : RectificationType) :
    t.invoiceType ≠ .F1 ∧ t.invoiceType ≠ .F2 := by
  cases t <;> simp [RectificationType.invoiceType]

section

variable {reg : Registry} {sha : Sha256} {clock : Clock} {db db' : Db} {o : InvoiceId} {total : ℤ}

theorem rectify_ok {args : RectifyArgs} (h : rectify reg args db = .ok db') :
    ∃ original totals items, db.accounts.find args.originalInvoiceId = some original ∧
      original.invoice.tenantId = args.tenantId ∧
      computeTotalsRectify args.input.items = .ok totals ∧
      db' = { db with accounts :=
        db.accounts.push ⟨draftRectification args original.invoice totals items, .empty⟩ } := by
  obtain ⟨_, found, h⟩ := Outcome.bind_ok h
  obtain ⟨_, -, h⟩ := Outcome.bind_ok h
  obtain ⟨totals, computed, h⟩ := Outcome.bind_ok h
  obtain ⟨_, -, h⟩ := Outcome.bind_ok h
  obtain ⟨items, -, h⟩ := Outcome.bind_ok h
  cases h
  obtain ⟨original, row, tenant, rfl, -⟩ := findOrThrow_account found
  exact ⟨original, totals, items, row, tenant, computed, rfl⟩

theorem rectify_bounded {args : RectifyArgs} (h : rectify reg args db = .ok db')
    (b : RectificationsBounded o total db.rectifications) :
    RectificationsBounded o total db'.rectifications := by
  obtain ⟨original, totals, items, row, tenant, -, rfl⟩ := rectify_ok h
  obtain ⟨notF1, notF2⟩ := args.input.rectificationType.invoiceType_ne
  rw [Db.rectifications, Table.view_push]
  refine b.push (by simp [Account.rectification, Invoice.rectification, draftRectification]) rfl
    notF1 notF2 fun o' rectifies => ?_
  cases rectifies
  exact ⟨_, Db.rectifications_find row, tenant⟩

theorem Invoice.edit_rectification {input : UpdateInvoiceInput} {lines : Option (Totals × List InvoiceItem)}
    (i : Invoice) (kept : postponed clock existing input = true → i.status ≠ .draft ∧ i.status ≠ .cancelled) :
    (Invoice.edit clock existing input lines i).rectification =
      { i.rectification with total := (lines.map fun l => l.1.total).getD i.total } := by
  unfold Invoice.edit
  cases put : postponed clock existing input with
  | false => cases lines <;> simp [Invoice.withTotals, Invoice.rectification]
  | true =>
    obtain ⟨draft, cancelled⟩ := kept put
    cases lines <;> simp [Invoice.withTotals, Invoice.rectification, draft, cancelled]

theorem updateInvoice_bounded {args : UpdateArgs} (h : updateInvoice reg clock args db = .ok db')
    (b : RectificationsBounded o total db.rectifications) :
    RectificationsBounded o total db'.rectifications := by
  obtain ⟨existing, found, h⟩ := Outcome.bind_ok h
  obtain ⟨_, editable, h⟩ := Outcome.bind_ok h
  obtain ⟨lines, computed, h⟩ := Outcome.bind_ok h
  obtain ⟨_, -, h⟩ := Outcome.bind_ok h
  obtain ⟨a, row, -, same, -⟩ := findOrThrow_account found
  cases h
  have kept : postponed clock existing args.input = true →
      a.invoice.status ≠ .draft ∧ a.invoice.status ≠ .cancelled := by
    intro put
    simp only [postponed, Bool.and_eq_true, decide_eq_true_eq] at put
    rw [same, put.1.2]
    simp
  have edited : (db.modifyAccount args.invoiceId fun a => { a with
      invoice := Invoice.edit clock existing args.input lines a.invoice }).rectifications =
      db.rectifications.modify args.invoiceId fun r => { r with
        total := (lines.map fun l => l.1.total).getD a.invoice.total } := by
    refine Db.rectifications_modify fun a' found' => ?_
    rw [row] at found'
    cases found'
    exact Invoice.edit_rectification a.invoice kept
  rw [edited]
  by_cases draft : a.invoice.status = .draft
  · exact b.edit (Db.rectifications_find row)
      (by simp [Account.rectification, Invoice.rectification, draft]) _
  · -- Lines are refused outside a draft: the total stays.
    have unchanged : lines = none := by
      obtain ⟨_, noLines, -⟩ := Outcome.bind_ok editable
      have none_ : args.input.items = none := by
        have := refuseIf_ok noLines
        rw [← same] at this
        simpa [draft] using this
      rw [updatedItems, none_] at computed
      cases computed
      rfl
    rw [unchanged, Table.modify_same]
    · exact b
    · intro r found'
      rw [Db.rectifications_find row] at found'
      cases found'
      rfl

/-- A rectification by differences is issued beside drafts that add up to no more than zero. -/
def issuesAlone (db : Db) (id : InvoiceId) : Prop :=
  ∀ r ∈ db.rectifications.find id, ∀ o ∈ r.rectifies, r.differs o = true →
    db.rectifications.drafted o ≤ r.total

theorem issueTx_bounded {args : IssueArgs} {fromHolded : Option HoldedDocument}
    (h : issueTx reg sha clock args.tenantId args.invoiceId existing args.settleZero fromHolded db = .ok db')
    (stored : db.rectifications.find args.invoiceId = some existing.rectification)
    (tenant : existing.tenantId = args.tenantId) (alone : issuesAlone db args.invoiceId)
    (b : RectificationsBounded o total db.rectifications) :
    RectificationsBounded o total db'.rectifications := by
  obtain ⟨changed, ⟨a, found, draft⟩, limits⟩ := issueTx_rectifications h
  obtain ⟨row, -⟩ := Db.findAccount_some found
  have same : a.invoice.rectification = existing.rectification := by
    rw [Db.rectifications_find row] at stored
    exact Option.some.inj stored
  have isDraft : existing.rectification.draft = true := by
    rw [← same]
    simpa [Invoice.rectification] using draft
  have active : existing.rectification.cancelled = false := by
    rw [← same]
    simp [Invoice.rectification, draft]
  have rectifies : existing.rectification.differs o = true →
      existing.rectifiesInvoiceId = some o := by
    intro differs
    simp only [RectificationRecord.differs, Bool.and_eq_true] at differs
    exact of_decide_eq_true differs.1.1.1
  rw [changed]
  refine b.issue stored isDraft active (fun differs => ?_) fun differs =>
    alone _ stored o (rectifies differs) differs
  obtain ⟨u, within⟩ := limits o (rectifies differs)
  rw [← tenant] at within
  obtain ⟨original, foundOriginal, bound⟩ := limits_bound b.sound stored differs within
  obtain ⟨original', foundOriginal', -, unchanged⟩ := b.original
  rw [foundOriginal] at foundOriginal'
  cases foundOriginal'
  rwa [unchanged] at bound

theorem issueInvoice_bounded {args : IssueArgs} {mode : InvoicingMode}
    {answer : Option HoldedDocument}
    (h : issueInvoice reg sha clock args mode answer db = .ok db')
    (alone : issuesAlone db args.invoiceId)
    (b : RectificationsBounded o total db.rectifications) :
    RectificationsBounded o total db'.rectifications := by
  obtain ⟨req, begun, h⟩ := Outcome.bind_ok h
  obtain ⟨a, row, tenant, shape⟩ := beginIssue_ok begun
  have stored := Db.rectifications_find row
  rcases shape with ⟨rfl, -⟩ | rfl | ⟨fromHolded, rfl⟩
  · have same : db'.rectifications = db.rectifications :=
      awaitHoldedCreditNoteTx_view (fun _ => rfl) h
    rw [same]
    exact b
  · obtain ⟨reserved, written, h⟩ := Outcome.bind_ok h
    cases h
    have same : reserved.rectifications = db.rectifications :=
      issueInHoldedTx_view (fun _ _ _ => rfl) written
    rw [← same] at b stored
    have alone' : issuesAlone reserved args.invoiceId := by
      rw [issuesAlone, same]
      exact alone
    unfold issueAnswered
    split
    · exact b
    · split
      · rename_i issued
        exact issueTx_bounded issued stored tenant alone' b
      · exact b
  · exact issueTx_bounded h stored tenant alone b

theorem cancel_rectifications {invoiceId : InvoiceId} :
    (db.modifyAccount invoiceId fun a =>
      { a with invoice := a.invoice.cancel clock }).rectifications =
      db.rectifications.modify invoiceId fun r => { r with draft := false, cancelled := true } :=
  Db.rectifications_modify fun _ _ => rfl

variable {args : CancelArgs}

theorem annul_rectifications {original : Account} {u : Unit} (found : db.accounts.find args.invoiceId = some original)
    (annullable : assertAnnullable args original = .ok u) :
    (db.modifyAccount args.invoiceId (Account.annul clock)).rectifications = db.rectifications := by
  obtain ⟨_, payable, -⟩ := Outcome.bind_ok annullable
  have payable : original.invoice.status.payable = true := by
    simpa using refuseIf_ok payable
  refine Db.rectifications_same fun a found' => ?_
  rw [found] at found'
  cases found'
  simp only [Account.annul, Account.rectification, Invoice.rectification,
    InvoiceStatus.payable_ne_draft payable, InvoiceStatus.payable_ne_cancelled payable]
  rfl

/-- The credit of an annulled invoice is drafted where nothing is taken from it in draft, and issued
beside no other drafts. -/
theorem credit_issuesAlone {args : RectifyArgs} (h : rectify reg args db = .ok db')
    (alone : db.rectifications.drafted args.originalInvoiceId ≤ 0) :
    issuesAlone db' db.accounts.nextKey := by
  obtain ⟨original, totals, items, -, -, -, rfl⟩ := rectify_ok h
  intro r found o' rectifies differs
  have pushed : ({ db with
      accounts := db.accounts.push
        ⟨draftRectification args original.invoice totals items, .empty⟩ } : Db).rectifications =
      db.rectifications.push (draftRectification args original.invoice totals items).rectification :=
    Table.view_push ..
  have fresh : db.accounts.nextKey = db.rectifications.nextKey := (Table.nextKey_view ..).symm
  rw [pushed, fresh, Table.find_push, if_pos rfl] at found
  cases found
  cases rectifies
  have pending : (draftRectification args original.invoice totals items).rectification.draft =
      true := by
    simp [Invoice.rectification, draftRectification]
  rw [pushed, RectificationBook.drafted, Table.sum_push, differs, pending, Bool.and_self,
    if_pos rfl]
  exact (add_le_add_left alone _).trans (zero_add _).le

theorem Account.compensate_rectification (a : Account) :
    (a.compensate clock).rectification = a.rectification := by
  unfold Account.compensate Invoice.compensated
  split
  · rename_i issued
    simp [Account.rectification, Invoice.rectification, issued]
  · rfl

theorem creditAnnulled_bounded {original : Invoice} (h : creditAnnulled reg sha clock args original db = .ok db')
    (alone : db.rectifications.drafted args.invoiceId ≤ 0) (b : RectificationsBounded o total db.rectifications) :
    RectificationsBounded o total db'.rectifications := by
  obtain ⟨drafted, rectified, h⟩ := Outcome.bind_ok h
  have withDraft := rectify_bounded rectified b
  have issuable := credit_issuesAlone rectified alone
  split at h
  · cases h
    exact withDraft
  · rename_i issued done
    cases h
    rw [Db.rectifications_same fun a _ => a.compensate_rectification]
    exact issueInvoice_bounded done issuable withDraft

theorem cancelIssued_bounded (h : cancelIssued reg sha clock args db = .ok db')
    (alone : db.rectifications.drafted args.invoiceId ≤ 0) (b : RectificationsBounded o total db.rectifications) :
    RectificationsBounded o total db'.rectifications := by
  obtain ⟨original, found, h⟩ := Outcome.bind_ok h
  obtain ⟨tenant, -, h⟩ := Outcome.bind_ok h
  obtain ⟨row, -⟩ := Db.findAccount_some (orMissing_ok found)
  obtain ⟨u, annullable, h⟩ : ∃ u, assertAnnullable args original = .ok u ∧
      creditAnnulled reg sha clock args original.invoice
        (db.modifyAccount args.invoiceId (Account.annul clock)) = .ok db' := by
    split at h
    · obtain ⟨_, -, h⟩ := Outcome.bind_ok h
      exact Outcome.bind_ok h
    · exact Outcome.bind_ok h
  have same : (db.modifyAccount args.invoiceId (Account.annul clock)).rectifications =
      db.rectifications := annul_rectifications row annullable
  rw [← same] at alone b
  exact creditAnnulled_bounded h alone b

theorem cancelInvoice_bounded (h : cancelInvoice reg sha clock args db = .ok db')
    (alone : db.rectifications.drafted args.invoiceId ≤ 0) (b : RectificationsBounded o total db.rectifications) :
    RectificationsBounded o total db'.rectifications := by
  obtain ⟨existing, found, h⟩ := Outcome.bind_ok h
  obtain ⟨a, row, -, rfl, -⟩ := findOrThrow_account found
  split at h
  · rename_i receipt
    obtain ⟨_, -, h⟩ := Outcome.bind_ok h
    obtain ⟨_, -, h⟩ := Outcome.bind_ok h
    obtain ⟨_, -, h⟩ := Outcome.bind_ok h
    obtain ⟨_, -, h⟩ := Outcome.bind_ok h
    cases h
    rw [cancel_rectifications]
    exact b.cancel (Db.rectifications_find row) (.inr receipt)
  · split at h
    · exact cancelIssued_bounded h alone b
    · rename_i draft
      cases h
      rw [cancel_rectifications]
      refine b.cancel (Db.rectifications_find row) (.inl ?_)
      simpa [Account.rectification, Invoice.rectification] using draft

theorem refundInvoice_bounded {args : RefundArgs} (h : refundInvoice reg clock args s = .ok t)
    (b : RectificationsBounded o total s.db.rectifications) :
    RectificationsBounded o total t.db.rectifications := by
  obtain ⟨_, -, h⟩ := Outcome.bind_ok h
  obtain ⟨a, found, h⟩ := Outcome.bind_ok h
  obtain ⟨refunded, done, h⟩ := Outcome.bind_ok h
  cases h
  obtain ⟨row, -⟩ := Db.findAccount_some (orMissing_ok found)
  have paid : a.invoice.status = .paid ∨ a.invoice.status = .partiallyRefunded := by
    obtain ⟨_, -, done⟩ := Outcome.bind_ok done
    obtain ⟨_, status, -⟩ := Outcome.bind_ok done
    have := refuseIf_ok status
    grind
  obtain ⟨paymentId, via, after⟩ := refund_ok done
  have same : refunded.invoice.rectification = a.invoice.rectification := by
    rw [after.invoice]
    unfold Invoice.refundedTo
    rcases paid with paid | paid <;> simp only [Invoice.rectification, paid] <;> split <;> rfl
  have kept : (s.db.modifyAccount args.invoiceId fun _ => refunded.toAccount).rectifications =
      s.db.rectifications := by
    refine Db.rectifications_same fun a' found' => ?_
    rw [row] at found'
    cases found'
    exact same
  rw [kept]
  exact b


end

/-! ### Every order of operations -/

/-- A rectification is issued, or an invoice annulled, beside drafts that add up to no more than
zero. -/
def creditsAlone (s : RectificationState) : RectificationAction → Prop
  | .issue _ args _ _ => issuesAlone s.db args.invoiceId
  | .cancel _ args => s.db.rectifications.drafted args.invoiceId ≤ 0
  | _ => True

instance decidableCreditsAlone (s : RectificationState) (a : RectificationAction) :
    Decidable (creditsAlone s a) := by
  cases a with
  | issue clock args mode answer =>
    exact inferInstanceAs (Decidable (∀ r ∈ s.db.rectifications.find args.invoiceId,
      ∀ o ∈ r.rectifies, r.differs o = true → s.db.rectifications.drafted o ≤ r.total))
  | cancel clock args =>
    exact inferInstanceAs (Decidable (s.db.rectifications.drafted args.invoiceId ≤ 0))
  | rectify args => exact isTrue trivial
  | update clock args => exact isTrue trivial
  | refund clock args => exact isTrue trivial

theorem rectificationStep_bounded {reg : Registry} {sha : Sha256} {action : RectificationAction} {o : InvoiceId}
    {total : ℤ} (h : rectificationStep reg sha s action = some t) (alone : creditsAlone s action)
    (b : RectificationsBounded o total s.db.rectifications) :
    RectificationsBounded o total t.db.rectifications := by
  cases action with
  | rectify args =>
    obtain ⟨db, done, rfl⟩ := Option.map_eq_some_iff.mp h
    exact rectify_bounded (Outcome.ok_of_toOption done) b
  | update clock args =>
    obtain ⟨db, done, rfl⟩ := Option.map_eq_some_iff.mp h
    exact updateInvoice_bounded (Outcome.ok_of_toOption done) b
  | issue clock args mode answer =>
    obtain ⟨db, done, rfl⟩ := Option.map_eq_some_iff.mp h
    exact issueInvoice_bounded (Outcome.ok_of_toOption done) alone b
  | cancel clock args =>
    obtain ⟨db, done, rfl⟩ := Option.map_eq_some_iff.mp h
    exact cancelInvoice_bounded (Outcome.ok_of_toOption done) alone b
  | refund clock args => exact refundInvoice_bounded (Outcome.ok_of_toOption h) b

/-- An issued invoice without rectifications yet, among invoices whose rectifications are sound. -/
structure RectificationStart (o : InvoiceId) (a : Account) (s : RectificationState) : Prop where
  found : s.db.accounts.find o = some a
  issued : a.invoice.status ≠ .draft
  nonneg : 0 ≤ a.invoice.total
  sound : RectificationsSound s.db.rectifications
  fresh : ∀ k r, s.db.rectifications.find k = some r → r.rectifies ≠ some o

theorem RectificationStart.bounded {o : InvoiceId} {a : Account} {s : RectificationState}
    (start : RectificationStart o a s) :
    RectificationsBounded o a.invoice.total s.db.rectifications where
  sound := start.sound
  original := ⟨_, Db.rectifications_find start.found,
    by simpa [Account.rectification, Invoice.rectification] using start.issued, rfl⟩
  bound := by
    have none_ : s.db.rectifications.issued o = 0 := by
      refine Table.sum_eq_zero fun r mem => ?_
      obtain ⟨k, found⟩ := Table.mem_values.mp mem
      simp [RectificationRecord.differs, start.fresh k r found]
    rw [none_, add_zero]
    exact start.nonneg

/-- Whatever is drafted, edited, issued, cancelled and refunded, an issued invoice keeps its total and
its issued rectifications by differences leave it at zero or above, as long as rectifications are
issued beside drafts that add up to no more than zero. -/
theorem rectification_bound {reg : Registry} {sha : Sha256} {s t : RectificationState}
    {o : InvoiceId} {a : Account} (start : RectificationStart o a s)
    (run : Run (rectificationStep reg sha) creditsAlone s t) :
    ∃ b, t.db.accounts.find o = some b ∧ b.invoice.total = a.invoice.total ∧
      0 ≤ b.invoice.total + t.db.rectifications.issued o := by
  have bounded : RectificationsBounded o a.invoice.total t.db.rectifications :=
    run.invariant (P := fun x => RectificationsBounded o a.invoice.total x.db.rectifications)
      start.bounded fun b alone taken => rectificationStep_bounded taken alone b
  obtain ⟨r, found, -, total⟩ := bounded.original
  rw [Db.rectifications, Table.find_view, Option.map_eq_some_iff] at found
  obtain ⟨b, row, rfl⟩ := found
  have same : b.invoice.total = a.invoice.total := total
  refine ⟨b, row, same, ?_⟩
  rw [same]
  exact bounded.bound

def issuedOriginal : RectificationState where
  db := {
    accounts := Table.empty.push ⟨{ draftInvoice 1 0 0 10000 with status := .issued }, .empty⟩
    series := (Table.empty.push (newSeries 1 "FA" true)).push
      { newSeries 1 "R" true with isDefault := false, isRectification := true } }
  refunds _ := []

theorem issuedOriginal_start :
    RectificationStart 0 ⟨{ draftInvoice 1 0 0 10000 with status := .issued }, .empty⟩
      issuedOriginal := by
  have only : ∀ k r, issuedOriginal.db.rectifications.find k = some r → r.rectifies = none := by
    intro k r found
    have row := Table.mem_values.mpr ⟨k, found⟩
    simp only [issuedOriginal, Db.rectifications, Table.view_push, Table.values_push] at row
    rcases List.mem_append.mp row with row | row
    · cases row
    · rw [List.mem_singleton.mp row]
      rfl
  refine ⟨rfl, by decide, by decide, fun k r o found rectifies => ?_, fun k r found => ?_⟩
  · rw [only k r found] at rectifies
    cases rectifies
  · rw [only k r found]
    simp

def oneDifference (unitPrice : ℚ) : RectificationAction :=
  .rectify ⟨1, 0, none, ⟨.R4, some .byDifferences, [⟨"Diferencia", 1, unitPrice, 0, none, none⟩],
    none⟩, false, 1, "DRAFT"⟩

def issueDifference (invoiceId : InvoiceId) : RectificationAction :=
  .issue (noon 20000) (issueOf invoiceId) .app none

/-- A credit of 60 € is issued before a charge of 20 € is drafted. -/
theorem rectification_bound_credit : ∃ t : RectificationState,
    t.db.rectifications.issued 0 = -6000 ∧
    ∃ b, t.db.accounts.find 0 = some b ∧ b.invoice.total = 10000 ∧
      0 ≤ b.invoice.total + t.db.rectifications.issued 0 := by
  obtain ⟨t, run, issued⟩ := Run.exists_of_exec (rectificationStep oneTenant .bytes) creditsAlone
    issuedOriginal [oneDifference (-60), issueDifference 1, oneDifference 20]
    (fun t => t.db.rectifications.issued 0 = -6000) (by decide +kernel)
  exact ⟨t, of_decide_eq_true issued, rectification_bound issuedOriginal_start run⟩

/-- A charge of 100 € in draft makes room for a credit of 150 €, which is issued without it. -/
theorem rectification_exceeds_original : ¬∀ (reg : Registry) (sha : Sha256)
    (s t : RectificationState) (o : InvoiceId) (a : Account), RectificationStart o a s →
    Reaches (rectificationStep reg sha) s t →
    ∃ b, t.db.accounts.find o = some b ∧ 0 ≤ b.invoice.total + t.db.rectifications.issued o := by
  intro bound
  obtain ⟨t, run, negative⟩ := Run.exists_of_exec (rectificationStep oneTenant .bytes)
    (fun _ _ => True) issuedOriginal [oneDifference 100, oneDifference (-150), issueDifference 2]
    (fun t => (t.db.accounts.find 0).all fun b =>
      b.invoice.total + t.db.rectifications.issued 0 = -5000) (by decide +kernel)
  obtain ⟨b, found, nonneg⟩ := bound oneTenant .bytes issuedOriginal t 0 _ issuedOriginal_start run
  rw [found] at negative
  have := of_decide_eq_true negative
  linarith

end StorageOS
