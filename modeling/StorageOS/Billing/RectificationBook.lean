import StorageOS.Billing.FiscalSteps
import StorageOS.Billing.Rectifications

/-! What the limits of rectifications read of the invoices: the issue of an invoice is reduced to what
it does to those columns, and the limits to a sum over them. -/

namespace StorageOS

structure RectificationRecord where
  tenantId : TenantId
  kind : InvoiceKind
  invoiceType : InvoiceType
  draft : Bool
  cancelled : Bool
  deleted : Bool
  rectifies : Option InvoiceId
  substitution : Bool
  total : ℤ

def Invoice.rectification (i : Invoice) : RectificationRecord where
  tenantId := i.tenantId
  kind := i.kind
  invoiceType := i.invoiceType
  draft := i.status = .draft
  cancelled := i.status = .cancelled
  deleted := i.deletedAt.isSome
  rectifies := i.rectifiesInvoiceId
  substitution := i.correctionMethod = some .bySubstitution
  total := i.total

def Account.rectification (a : Account) : RectificationRecord := a.invoice.rectification

abbrev RectificationBook := Table InvoiceId RectificationRecord

def Db.rectifications (db : Db) : RectificationBook := db.accounts.view Account.rectification

def RectificationRecord.differs (o : InvoiceId) (r : RectificationRecord) : Bool :=
  r.rectifies = some o && !r.cancelled && !r.deleted && !r.substitution

/-- The issued rectifications by differences of an invoice, and those in draft. -/
def RectificationBook.issued (book : RectificationBook) (o : InvoiceId) : ℤ :=
  book.sum fun r => if r.differs o && !r.draft then r.total else 0

def RectificationBook.drafted (book : RectificationBook) (o : InvoiceId) : ℤ :=
  book.sum fun r => if r.differs o && r.draft then r.total else 0

/-! ### What the operations change -/

variable {db : Db} {id : InvoiceId}

variable {f : Account → Account} {clock : Clock} {tenantId : TenantId} {invoiceId : InvoiceId} {existing : Invoice}

theorem Db.rectifications_modify {f' : RectificationRecord → RectificationRecord}
    (h : ∀ a, db.accounts.find id = some a → (f a).rectification = f' a.rectification) :
    (db.modifyAccount id f).rectifications = db.rectifications.modify id f' :=
  Table.view_modify h

theorem Db.rectifications_same (h : ∀ a, db.accounts.find id = some a → (f a).rectification = a.rectification) :
    (db.modifyAccount id f).rectifications = db.rectifications :=
  Table.view_modify_same h

theorem Db.rectifications_find {a : Account} (found : db.accounts.find id = some a) :
    db.rectifications.find id = some a.rectification := by
  rw [Db.rectifications, Table.find_view, found]
  rfl

theorem substituteOriginal_rectification (clock : Clock) (a : Account) :
    (substituteOriginal clock a).rectification = a.rectification := by
  unfold substituteOriginal
  split
  · rename_i payable
    simp [Account.rectification, Invoice.rectification, InvoiceStatus.payable_ne_draft payable,
      InvoiceStatus.payable_ne_cancelled payable]
  · rfl

theorem compensateWithCredit_rectification (clock : Clock) (creditCents : ℤ) (a : Account) :
    (compensateWithCredit clock creditCents a).rectification = a.rectification := by
  unfold compensateWithCredit
  simp only
  split
  · rfl
  · rename_i pays
    have payable : a.invoice.status.payable = true := by
      by_contra h
      exact pays (by simp [h])
    have draft := InvoiceStatus.payable_ne_draft payable
    have cancelled := InvoiceStatus.payable_ne_cancelled payable
    simp only [Account.rectification, Invoice.rectification]
    split <;> simp [draft, cancelled]

theorem applyWithholding_rectification (reg : Registry) (clock : Clock) (a : Account) :
    (applyWithholding reg clock a).rectification = a.rectification := by
  unfold applyWithholding
  simp only
  split
  · rfl
  · split
    · rfl
    · split
      · rfl
      · split <;> rfl

/-- What an issue checks of a rectification: its limits, on the invoices as they are. -/
theorem issueRectification_rectifications {db db' : Db}
    (h : issueRectification clock tenantId invoiceId existing db = .ok db') :
    db'.rectifications = db.rectifications ∧ ∀ o ∈ existing.rectifiesInvoiceId,
      ∃ u, assertRectificationLimits db tenantId o (some invoiceId) existing.total
        (existing.correctionMethod.getD .byDifferences) = .ok u := by
  unfold issueRectification at h
  split at h
  · rename_i none_
    cases h
    exact ⟨rfl, by simp [none_]⟩
  · rename_i o some_
    obtain ⟨u, checked, h⟩ := Outcome.bind_ok h
    cases h
    refine ⟨?_, fun o' mem => ?_⟩
    · split
      · exact Db.rectifications_same fun a _ => substituteOriginal_rectification clock a
      · rfl
    · rw [some_] at mem
      cases mem
      exact ⟨u, checked⟩

def RectificationRecord.issue (r : RectificationRecord) : RectificationRecord :=
  { r with draft := false, cancelled := false }

theorem rectification_view (reg : Registry) (clock : Clock) :
    IssueView reg clock Account.rectification RectificationRecord.issue where
  withholding a _ := applyWithholding_rectification reg clock a
  credit := compensateWithCredit_rectification clock
  numbered _ settled _ _ _ _ := by cases settled <;> rfl
  stamped _ settled _ _ _ := by cases settled <;> rfl

/-- The transaction of an issue changes the invoice from draft to issued, and has checked its limits
as a rectification. -/
theorem issueTx_rectifications {reg : Registry} {sha : Sha256} {settleZero : Bool} {fromHolded : Option HoldedDocument}
    {db db' : Db} (h : issueTx reg sha clock tenantId invoiceId existing settleZero fromHolded db = .ok db') :
    db'.rectifications = db.rectifications.modify invoiceId RectificationRecord.issue ∧
      (∃ a, db.findAccount tenantId invoiceId = some a ∧ a.invoice.status = .draft) ∧
      ∀ o ∈ existing.rectifiesInvoiceId,
        ∃ u, assertRectificationLimits db tenantId o (some invoiceId) existing.total
          (existing.correctionMethod.getD .byDifferences) = .ok u := by
  obtain ⟨draft, rectified, checked, issued⟩ := (rectification_view reg clock).issueTx h
  obtain ⟨same, limits⟩ := issueRectification_rectifications checked
  exact ⟨by rw [← same]; exact issued, draft, limits⟩

/-! ### The limits -/

/-- Rectifications are invoices of a rectifying type, of the tenant of their original. -/
def RectificationsSound (book : RectificationBook) : Prop :=
  ∀ k r o, book.find k = some r → r.rectifies = some o → r.kind = .invoice ∧
    r.invoiceType ≠ .F1 ∧ r.invoiceType ≠ .F2 ∧
    ∃ original, book.find o = some original ∧ original.tenantId = r.tenantId

theorem issued_add_drafted (book : RectificationBook) (o : InvoiceId) :
    book.issued o + book.drafted o = book.sum fun r => if r.differs o then r.total else 0 := by
  rw [RectificationBook.issued, RectificationBook.drafted, ← Table.sum_add]
  congr 1
  funext r
  cases r.differs o <;> cases r.draft <;> simp

/-- A rectification that passes its limits leaves its original with what the other ones, in draft or
issued, leave it. -/
theorem limits_bound {id o : InvoiceId} {i : Invoice} {u : Unit} (sound : RectificationsSound db.rectifications)
    (found : db.rectifications.find id = some i.rectification) (live : i.rectification.differs o = true)
    (h : assertRectificationLimits db i.tenantId o (some id) i.total (i.correctionMethod.getD .byDifferences) = .ok u) :
    ∃ original, db.rectifications.find o = some original ∧
      0 ≤ original.total + db.rectifications.issued o + db.rectifications.drafted o := by
  have method : i.correctionMethod.getD .byDifferences = .byDifferences := by
    have differs : i.rectification.substitution = false := by
      simp only [RectificationRecord.differs, Bool.and_eq_true] at live
      simpa using live.2
    cases chosen : i.correctionMethod with
    | none => rfl
    | some m =>
      cases m with
      | byDifferences => rfl
      | bySubstitution => simp [Invoice.rectification, chosen] at differs
  rw [method] at h
  obtain ⟨original, foundOriginal, h⟩ := Outcome.bind_ok h
  obtain ⟨_, whole, h⟩ := Outcome.bind_ok h
  obtain ⟨row, ofTenant⟩ := Db.findAccount_some (orMissing_ok foundOriginal)
  refine ⟨original.rectification, Db.rectifications_find row, ?_⟩
  let others := (db.accounts.rows.filter fun q => q.2.invoice.tenantId = i.tenantId &&
    q.2.invoice.rectifiesInvoiceId = some o && q.2.invoice.status ≠ .cancelled &&
    q.2.invoice.deletedAt = none && some id ≠ some q.1).map fun q => q.2.invoice
  have within : 0 ≤ original.invoice.total + (others.map Invoice.total).sum + i.total :=
    not_lt.mp (refuseIf_ok h)
  obtain ⟨a, stored, same⟩ : ∃ a, db.accounts.find id = some a ∧
      a.invoice.rectification = i.rectification := by
    rw [Db.rectifications, Table.find_view, Option.map_eq_some_iff] at found
    exact found
  let counted (a : Account) : Bool := a.invoice.tenantId = i.tenantId &&
    a.invoice.rectifiesInvoiceId = some o && a.invoice.status ≠ .cancelled &&
    a.invoice.deletedAt = none
  have alone : ∀ k b, db.accounts.find k = some b → k ≠ id → counted b = true →
      b.invoice.correctionMethod ≠ some .bySubstitution := by
    intro k b other ne counts substitutes
    refine refuseIf_ok whole (List.any_eq_true.mpr ⟨b.invoice, List.mem_map.mpr
      ⟨(k, b), List.mem_filter.mpr ⟨Table.find_eq_some.mp other, ?_⟩, rfl⟩, by simpa using substitutes⟩)
    simp only [counted, Bool.and_eq_true] at counts
    simpa [Ne.symm ne] using counts
  have selects : ∀ k b, db.accounts.find k = some b →
      counted b = b.rectification.differs o := by
    intro k b other
    by_cases rectifies : b.invoice.rectifiesInvoiceId = some o
    · have tenant : b.invoice.tenantId = i.tenantId := by
        obtain ⟨-, -, -, original', foundOriginal', same⟩ :=
          sound k _ o (Db.rectifications_find other) rectifies
        rw [Db.rectifications_find row] at foundOriginal'
        cases foundOriginal'
        exact same.symm.trans ofTenant
      have method : counted b = true → b.rectification.substitution = false := by
        intro counts
        by_cases self : k = id
        · subst self
          rw [stored] at other
          cases other
          rw [Account.rectification, same]
          simp only [RectificationRecord.differs, Bool.and_eq_true] at live
          simpa using live.2
        · simpa [Account.rectification, Invoice.rectification] using alone k b other self counts
      have counts : counted b = (!b.rectification.cancelled && !b.rectification.deleted) := by
        cases deleted : b.invoice.deletedAt <;>
          simp [counted, Account.rectification, Invoice.rectification, tenant, rectifies, deleted]
      have differs : b.rectification.differs o =
          (counted b && !b.rectification.substitution) := by
        rw [counts, RectificationRecord.differs]
        simp [Account.rectification, Invoice.rectification, rectifies]
      rw [differs]
      cases chosen : counted b with
      | false => rfl
      | true => simp [method chosen]
    · simp [counted, Account.rectification, Invoice.rectification, RectificationRecord.differs,
        rectifies]
  have all : db.accounts.sum (fun a => if counted a then a.invoice.total else 0) =
      db.rectifications.issued o + db.rectifications.drafted o := by
    rw [issued_add_drafted, Db.rectifications, Table.sum_view]
    refine Table.sum_congr fun k b other => ?_
    rw [selects k b other]
    rfl
  have own_total : a.invoice.total = i.total :=
    congrArg RectificationRecord.total same
  have rest := Table.sum_others stored counted fun a => a.invoice.total
  rw [all, selects id a stored, Account.rectification, same, if_pos live, own_total] at rest
  have listed : (others.map Invoice.total).sum =
      db.rectifications.issued o + db.rectifications.drafted o - i.total := by
    rw [← rest, List.map_map]
    congr 2
    refine List.filter_congr fun q _ => ?_
    simp [counted, eq_comm]
  rw [listed] at within
  change 0 ≤ original.invoice.total + _ + _
  linarith

end StorageOS
