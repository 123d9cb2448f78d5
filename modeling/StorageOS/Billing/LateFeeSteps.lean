import StorageOS.Billing.LateFeeLinks
import StorageOS.Billing.RectificationBound

/-! What stays true of late fees along every interleaving: an invoice has at most one, no fee is
charged on a fee, and an annulled invoice is not left with a fee in draft. -/

namespace StorageOS

open Transition Processes

/-! ### Each step -/

theorem applyWithholding_lateFee (reg : Registry) (clock : Clock) (a : Account)
    (issued : a.invoice.status ≠ .draft) : (applyWithholding reg clock a).lateFee = a.lateFee := by
  unfold applyWithholding
  simp only
  split
  · rfl
  · split
    · rfl
    · split
      · rfl
      · split
        · rfl
        · simp [Account.lateFee, issued]

theorem compensateWithCredit_lateFee (clock : Clock) (creditCents : ℤ) (a : Account) :
    (compensateWithCredit clock creditCents a).lateFee = a.lateFee := by
  unfold compensateWithCredit
  simp only
  split
  · rfl
  · rename_i pays
    have payable : a.invoice.status.payable = true := by
      by_contra h
      exact pays (by simp [h])
    have rectified : a.invoice.status ≠ .rectified := by
      intro h
      simp [h, InvoiceStatus.payable] at payable
    have draft := InvoiceStatus.payable_ne_draft payable
    have cancelled := InvoiceStatus.payable_ne_cancelled payable
    simp only [Account.lateFee]
    split <;> simp [draft, cancelled, rectified]

theorem lateFee_view (reg : Registry) (clock : Clock) :
    IssueView reg clock Account.lateFee (LateFeeRecord.become false false) where
  withholding := applyWithholding_lateFee reg clock
  credit := compensateWithCredit_lateFee clock
  numbered _ settled _ _ _ _ := by cases settled <;> rfl
  stamped _ settled _ _ _ := by cases settled <;> rfl

variable {clock : Clock} {tenantId : TenantId} {db db' : Db} {id : InvoiceId} {o : InvoiceId} {ro : LateFeeRecord}
  {args : InvoiceArgs} {original : Invoice}

variable {invoiceId : InvoiceId} {existing : Invoice} {f : Account → Account} {fee : LateFee} {feeId : InvoiceId}

theorem issueTx_lateFee {reg : Registry} {sha : Sha256} {settleZero : Bool} {fromHolded : Option HoldedDocument}
    (h : issueTx reg sha clock tenantId invoiceId existing settleZero fromHolded db = .ok db')
    (differs : existing.rectifiesInvoiceId ≠ none → existing.correctionMethod ≠ some .bySubstitution) :
    db'.accounts.view Account.lateFee =
      (db.accounts.view Account.lateFee).modify invoiceId (LateFeeRecord.become false false) := by
  obtain ⟨-, rectified, checked, issued⟩ := (lateFee_view reg clock).issueTx h
  have same : rectified = db := by
    unfold issueRectification at checked
    split at checked
    · cases checked
      rfl
    · rename_i o rectifies
      obtain ⟨_, -, checked⟩ := Outcome.bind_ok checked
      cases checked
      have method : existing.correctionMethod.getD .byDifferences ≠ .bySubstitution := by
        have := differs (by simp [rectifies])
        cases chosen : existing.correctionMethod with
        | none => simp
        | some m =>
          rw [chosen] at this
          simpa using this
      rw [if_neg method]
  rw [issued, same]

section

variable {reg : Registry} {sha : Sha256} {d d' : LateFeeDb} {r : LateFeeRequest}
  {rest : Option LateFeeRequest} {input : LateFeeInput}

def LateFeeRequest.Plain (reg : Registry) (r : LateFeeRequest) : Prop :=
  (∀ k, ¬r.Linking k) ∧ (∀ o, ¬r.Annulling o) ∧ ∀ k rk, ¬r.Drops reg k rk

/-- Rows are kept: they follow, and what is not linked is not issued. -/
def LateFeeDb.Keeps (d d' : LateFeeDb) : Prop :=
  ∀ j r, d.book.find j = some r → ∃ r', d'.book.find j = some r' ∧ r.Follows r' ∧
    (d.lateFeeFor j = none → r.unissued → r'.unissued)

theorem LateFeeDb.Keeps.refl (d : LateFeeDb) : d.Keeps d :=
  fun _ r found => ⟨r, found, .refl r, fun _ h => h⟩

theorem LateFeeMove.kept (links : d'.lateFeeFor = d.lateFeeFor)
    (charges : d'.chargedOn = d.chargedOn) (rows : d.Keeps d')
    (rectified : ∀ o ro', d'.book.find o = some ro' → ro'.rectified = true →
      (∃ ro, d.book.find o = some ro ∧ ro.rectified = true) ∨
        ∃ r', rest = some r' ∧ r'.Annulling o)
    (next : ∀ r', rest = some r' → r'.Sound reg d')
    (linking : ∀ k, r.Linking k → ∃ r', rest = some r' ∧
      ∀ rk, d'.book.find k = some rk → r'.Linking k ∨ r'.Drops reg k rk)
    (annulling : ∀ k o rk ro, r.Annulling o → d'.lateFeeFor k = some o →
      d'.book.find k = some rk → rk.IsFee → rk.draft = true → d'.book.find o = some ro →
      ro.rectified = true → ∃ r', rest = some r' ∧ (r'.Annulling o ∨ r'.Drops reg k rk))
    (drops : ∀ k rk, r.Drops reg k rk → d'.book.find k = some rk → rk.IsFee → rk.draft = true →
      ∃ r', rest = some r' ∧ r'.Drops reg k rk) : LateFeeMove reg d r d' rest where
  commit := .kept links charges rows
  next := next
  linking k h _ := linking k h
  annulling := annulling
  drops := drops
  created k o none_ some_ := by
    rw [charges, none_] at some_
    cases some_
  linked k o ro none_ some_ := by
    rw [links, none_] at some_
    cases some_
  rectified := rectified

theorem LateFeeMove.plain (plain : r.Plain reg) (links : d'.lateFeeFor = d.lateFeeFor)
    (charges : d'.chargedOn = d.chargedOn) (rows : d.Keeps d')
    (rectified : ∀ o ro', d'.book.find o = some ro' → ro'.rectified = true →
      (∃ ro, d.book.find o = some ro ∧ ro.rectified = true) ∨
        ∃ r', rest = some r' ∧ r'.Annulling o)
    (next : ∀ r', rest = some r' → r'.Sound reg d') : LateFeeMove reg d r d' rest :=
  .kept links charges rows rectified next (fun k h => absurd h (plain.1 k))
    (fun _ o _ _ h => absurd h (plain.2.1 o)) fun k rk h => absurd h (plain.2.2 k rk)

theorem LateFeeMove.read (plain : r.Plain reg) (next : ∀ r', rest = some r' → r'.Sound reg d) :
    LateFeeMove reg d r d rest :=
  .plain plain rfl rfl (.refl d) (fun _ ro found annulled => .inl ⟨ro, found, annulled⟩) next

theorem LateFeeDb.modify_keeps
    (h : ∀ a, d.db.accounts.find id = some a → a.lateFee.Follows (f a).lateFee ∧
      (d.lateFeeFor id = none → a.lateFee.unissued → (f a).lateFee.unissued)) :
    d.Keeps (d.modify id f) := by
  intro j r found
  rw [LateFeeDb.book, Table.find_view, Option.map_eq_some_iff] at found
  obtain ⟨a, row, rfl⟩ := found
  by_cases same : j = id
  · subst same
    obtain ⟨follows, unissued⟩ := h a row
    refine ⟨(f a).lateFee, LateFeeDb.book_find ?_, follows, unissued⟩
    rw [LateFeeDb.modify, LateFeeDb.withDb, Db.modifyAccount, Table.find_modify_self, row]
    rfl
  · refine ⟨a.lateFee, LateFeeDb.book_find ?_, .refl _, fun _ h => h⟩
    rw [LateFeeDb.modify, LateFeeDb.withDb, Db.modifyAccount, Table.find_modify_ne _ same, row]

theorem LateFeeDb.modify_rectified (found : (d.modify id f).book.find o = some ro) (annulled : ro.rectified = true) :
    (∃ r, d.book.find o = some r ∧ r.rectified = true) ∨
      o = id ∧ ∃ a, d.db.accounts.find id = some a ∧ (f a).lateFee.rectified = true := by
  rw [LateFeeDb.book, Table.find_view, Option.map_eq_some_iff] at found
  obtain ⟨a, row, rfl⟩ := found
  rcases Table.find_modify_cases row with ⟨-, before⟩ | ⟨rfl, b, before, rfl⟩
  · exact .inl ⟨a.lateFee, LateFeeDb.book_find before, annulled⟩
  · exact .inr ⟨rfl, b, before, annulled⟩

theorem LateFeeDb.become_keeps {cancelled rectified : Bool} {db : Db}
    (book : db.accounts.view Account.lateFee = d.book.modify id (LateFeeRecord.become cancelled rectified))
    (h : ∀ r, d.book.find id = some r →
      (cancelled = true → r.unissued ∨ r.kind = .depositReceipt) ∧
      (d.lateFeeFor id = none → r.unissued → cancelled = true)) :
    d.Keeps (d.withDb db) := by
  intro j r found
  have book' : (d.withDb db).book = d.book.modify id (LateFeeRecord.become cancelled rectified) :=
    book
  rw [book', Table.find_modify]
  split
  · rename_i same
    subst same
    obtain ⟨cancels, keeps⟩ := h r found
    exact ⟨r.become cancelled rectified, by rw [found]; rfl, .become cancels,
      fun unlinked unissued => .inr (keeps unlinked unissued)⟩
  · exact ⟨r, found, .refl r, fun _ h => h⟩

theorem LateFeeDb.become_rectified {cancelled : Bool} {db : Db}
    (book : db.accounts.view Account.lateFee = d.book.modify id (LateFeeRecord.become cancelled false))
    (found : (d.withDb db).book.find o = some ro) (annulled : ro.rectified = true) :
    ∃ r, d.book.find o = some r ∧ r.rectified = true := by
  have book' : (d.withDb db).book = d.book.modify id (LateFeeRecord.become cancelled false) := book
  rw [book'] at found
  rcases Table.find_modify_cases found with ⟨-, before⟩ | ⟨-, r, -, rfl⟩
  · exact ⟨ro, before, annulled⟩
  · cases annulled

end

section

variable {reg : Registry} {sha : Sha256} {d : LateFeeDb} {input : LateFeeInput}

theorem findOrThrow_visible (h : findOrThrow reg d.db args.tenantId args.invoiceId args.facilityScope = .ok existing) :
    ∃ a, d.db.accounts.find args.invoiceId = some a ∧ a.invoice = existing ∧
      a.lateFee.Visible reg args := by
  obtain ⟨a, row, tenant, rfl, -⟩ := findOrThrow_account h
  refine ⟨a, row, rfl, tenant, ?_⟩
  unfold findOrThrow at h
  split at h
  · cases h
  · rename_i b found
    obtain ⟨row', -⟩ := Db.findAccount_some found
    rw [row] at row'
    cases row'
    split at h
    · cases h
    · simp only at h
      split at h
      · rename_i allowed
        exact allowed
      · cases h

abbrev LateFeeTakes (reg : Registry) (sha : Sha256) (d : LateFeeDb) (input : LateFeeInput)
    (r : LateFeeRequest) : Prop :=
  LateFeeMove reg d r (lateFeeNext reg sha d input r).1 (lateFeeNext reg sha d input r).2

theorem charge_move (args : InvoiceArgs) :
    LateFeeTakes reg sha d input (.charge args) := by
  refine .read ⟨fun _ h => h, fun _ h => h, fun _ _ h => h⟩ fun r' made => ?_
  cases read : findOrThrow reg d.db args.tenantId args.invoiceId args.facilityScope with
  | error e => simp [lateFeeNext, goOn, read, Except.map, Except.toOption] at made
  | ok existing =>
    simp only [lateFeeNext, goOn, read, Except.map, Except.toOption, Option.some.injEq] at made
    subst made
    obtain ⟨a, row, -, sees⟩ := findOrThrow_visible read
    exact ⟨a.lateFee, LateFeeDb.book_find row, sees⟩

theorem lateFeeFor_ok (h : lateFeeFor tenantId invoiceId input d = .ok fee) :
    ∃ a, d.db.accounts.find invoiceId = some a ∧ d.Owes invoiceId a.lateFee ∧
      fee.contractId = a.invoice.contractId := by
  unfold lateFeeFor at h
  split at h
  · cases h
  · rename_i a found
    obtain ⟨row, -⟩ := Db.findAccount_some found
    obtain ⟨_, receipt, h⟩ := Outcome.bind_ok h
    obtain ⟨_, linked, h⟩ := Outcome.bind_ok h
    obtain ⟨_, -, h⟩ := Outcome.bind_ok h
    split at h
    · cases h
    · obtain ⟨_, overdue, h⟩ := Outcome.bind_ok h
      obtain ⟨_, -, h⟩ := Outcome.bind_ok h
      obtain ⟨_, -, h⟩ := Outcome.bind_ok h
      cases h
      refine ⟨a, row, ⟨LateFeeDb.book_find row, ?_, ?_, ?_⟩, rfl⟩
      · have := refuseIf_ok receipt
        cases kind : a.invoice.kind with
        | invoice => exact kind
        | depositReceipt => exact absurd kind this
      · have status := refuseIf_ok overdue
        rintro (draft | cancelled)
        · have : a.invoice.status = .draft := by simpa [Account.lateFee] using draft
          simp [Invoice.overdueOn, this] at status
        · have : a.invoice.status = .cancelled := by simpa [Account.lateFee] using cancelled
          simp [Invoice.overdueOn, this] at status
      · simpa using refuseIf_ok linked

theorem price_move (h : LateFeeRequest.Sound reg d (.price args)) :
    LateFeeTakes reg sha d input (.price args) := by
  refine .read ⟨fun _ h => h, fun _ h => h, fun _ _ h => h⟩ fun r' made => ?_
  cases priced : lateFeeFor args.tenantId args.invoiceId input d with
  | error e => simp [lateFeeNext, goOn, priced, Except.map, Except.toOption] at made
  | ok fee =>
    simp only [lateFeeNext, goOn, priced, Except.map, Except.toOption, Option.some.injEq] at made
    subst made
    obtain ⟨a, row, owes, contract⟩ := lateFeeFor_ok priced
    obtain ⟨ro, found, sees⟩ := h
    rw [owes.found] at found
    cases found
    exact ⟨a.lateFee, owes, sees, contract⟩

theorem createLateFeeDraft_ok {f : LateFee} {d' : LateFeeDb} (h : createLateFeeDraft args f input d = .ok d') :
    ∃ seriesId totals items, d' = { d with
      db := { d.db with
        accounts := d.db.accounts.push
          ⟨f.draft args.tenantId seriesId input.placeholderNumber totals items, .empty⟩ }
      chargedOn := Function.update d.chargedOn d.db.accounts.nextKey (some args.invoiceId) } := by
  obtain ⟨seriesId, -, h⟩ := Outcome.bind_ok h
  obtain ⟨totals, -, h⟩ := Outcome.bind_ok h
  split at h
  · cases h
  · obtain ⟨item, -, h⟩ := Outcome.bind_ok h
    cases h
    exact ⟨seriesId, totals, [item], rfl⟩

theorem LateFee.draft_record (f : LateFee) (tenantId : TenantId) (seriesId : SeriesId)
    (placeholderNumber : String) (totals : Totals) (items : List InvoiceItem) :
    Account.lateFee ⟨f.draft tenantId seriesId placeholderNumber totals items, .empty⟩ =
      { tenantId, contractId := f.contractId, kind := .invoice, rectifies := none, deleted := false,
        draft := true, draftPaid := false, cancelled := false, rectified := false } := by
  simp [Account.lateFee, LateFee.draft]

theorem create_move (sound : LateFeesSound d) (h : LateFeeRequest.Sound reg d (.create args fee)) :
    LateFeeTakes reg sha d input (.create args fee) := by
  obtain ⟨ro, owes, sees, contract⟩ := h
  simp only [LateFeeTakes, lateFeeNext]
  cases drafted : createLateFeeDraft args fee input d with
  | error e =>
    exact .read ⟨fun _ h => h, fun _ h => h, fun _ _ h => h⟩ goesOn_none
  | ok d' =>
    obtain ⟨seriesId, totals, items, rfl⟩ := createLateFeeDraft_ok drafted
    let row : Account := ⟨fee.draft args.tenantId seriesId input.placeholderNumber totals items, .empty⟩
    have record : row.lateFee = _ := fee.draft_record ..
    have key : d.book.nextKey = d.db.accounts.nextKey := Table.nextKey_view ..
    have book : (d.db.accounts.push row).view Account.lateFee = d.book.push row.lateFee :=
      Table.view_push ..
    have fresh := sound.fresh
    refine ⟨.created args.invoiceId row.lateFee ro book rfl (by rw [key]) ?_ ?_ owes ?_, ?_,
      fun _ h => h.elim, fun _ _ _ _ h => h.elim, fun _ _ h => h.elim, ?_, ?_, ?_⟩
    · rw [record]
      exact ⟨rfl, rfl, rfl, rfl⟩
    · rw [record]
    · rw [record]
      exact sees.1
    · rintro r' made
      cases made
      refine ⟨Function.update_self .., row.lateFee, ?_, ?_⟩
      · change ((d.db.accounts.push row).view Account.lateFee).find _ = _
        rw [book, ← key, Table.find_push, if_pos rfl]
      · rw [record]
        refine ⟨rfl, ?_⟩
        rw [contract]
        exact sees.2
    · intro k o none_ some_
      refine ⟨_, rfl, ?_⟩
      by_contra other
      have same := Function.update_of_ne (Ne.symm other) (some args.invoiceId) d.chargedOn
      exact absurd (some_.symm.trans same) (by rw [none_]; simp)
    · intro k o r none_ some_
      exact absurd (some_.symm.trans none_) (by simp)
    · intro o r found annulled
      change ((d.db.accounts.push row).view Account.lateFee).find _ = _ at found
      rw [book, Table.find_push] at found
      split at found
      · cases found
        rw [record] at annulled
        cases annulled
      · exact .inl ⟨r, found, annulled⟩

def linksUnannulled (d : LateFeeDb) (r : LateFeeRequest) (_ : LateFeeInput) : Prop :=
  match r with
  | .link args feeId => d.hasLateFee args.invoiceId (fun k => k ≠ feeId) = true ∨
    ∀ a ∈ d.db.accounts.find args.invoiceId, a.invoice.status ≠ .rectified
  | _ => True

instance decidableLinksUnannulled (d : LateFeeDb) (r : LateFeeRequest) (input : LateFeeInput) :
    Decidable (linksUnannulled d r input) := by
  cases r <;> first | exact isTrue trivial | skip
  rename_i args feeId
  exact inferInstanceAs (Decidable (d.hasLateFee args.invoiceId (fun k => k ≠ feeId) = true ∨
    ∀ a ∈ d.db.accounts.find args.invoiceId, a.invoice.status ≠ .rectified))

theorem link_move (sound : LateFeesSound d) (h : LateFeeRequest.Sound reg d (.link args feeId))
    (unannulled : linksUnannulled d (.link args feeId) input) :
    LateFeeMove reg d (.link args feeId) (linkLateFee args feeId d).1
      (linkLateFee args feeId d).2 := by
  obtain ⟨charged, rk, found, sees⟩ := h
  obtain ⟨a, row, rfl⟩ : ∃ a, d.db.accounts.find feeId = some a ∧ a.lateFee = rk := by
    rwa [LateFeeDb.book, Table.find_view, Option.map_eq_some_iff] at found
  have visible : d.db.findAccount args.tenantId feeId = some a := by
    rw [Db.findAccount, row]
    simpa [Option.filter_some, Account.lateFee] using sees.1
  rw [linkLateFee, visible]
  simp only
  split
  · rename_i taken
    refine .kept rfl rfl (.refl d) (fun o ro found annulled => .inl ⟨ro, found, annulled⟩)
      (fun r' made => ?_) (fun k links => ?_) (fun _ _ _ _ h => h.elim) fun _ _ h => h.elim
    · cases made
      trivial
    · cases links
      refine ⟨_, rfl, fun rk found' => .inr ⟨rfl, ?_⟩⟩
      rw [found] at found'
      cases found'
      exact sees
  · rename_i free
    have alone : ∀ k', d.lateFeeFor k' = some args.invoiceId → k' = feeId := by
      intro k' linked
      by_contra other
      obtain ⟨rk', _, found', -⟩ := sound.fee _ _ (sound.charged _ _ linked)
      rw [LateFeeDb.book, Table.find_view, Option.map_eq_some_iff] at found'
      obtain ⟨b, row', -⟩ := found'
      exact free (Table.any_rows.mpr ⟨k', b, row', by simp [other, linked]⟩)
    refine ⟨.linked feeId args.invoiceId rfl rfl charged alone rfl, fun r' made => ?_, ?_,
      fun _ _ _ _ h => h.elim, fun _ _ h => h.elim, ?_, ?_, fun o ro found annulled =>
        .inl ⟨ro, found, annulled⟩⟩
    · cases made
      change Function.update d.lateFeeFor feeId (some args.invoiceId) feeId ≠ none
      simp
    · intro k links unlinked
      cases links
      simp at unlinked
    · intro k o none_ some_
      exact absurd (some_.symm.trans none_) (by simp)
    · intro k o ro none_ some_ found'
      by_cases same : k = feeId
      · subst same
        have target : o = args.invoiceId := by simpa using some_.symm
        subst target
        rcases unannulled with taken | payable
        · exact absurd taken free
        · rw [LateFeeDb.book, Table.find_view, Option.map_eq_some_iff] at found'
          obtain ⟨b, row', rfl⟩ := found'
          simpa [Account.lateFee] using payable b row'
      · have : d.lateFeeFor k = some o := by
          simpa [Function.update_of_ne same] using some_
        rw [none_] at this
        cases this

end

section

variable {reg : Registry} {sha : Sha256} {d : LateFeeDb} {input : LateFeeInput}

theorem issueRead_move (sound : LateFeesSound d) (h : LateFeeRequest.Sound reg d (.issueRead tenantId feeId)) :
    LateFeeTakes reg sha d input (.issueRead tenantId feeId) := by
  refine .read ⟨fun _ h => h, fun _ h => h, fun _ _ h => h⟩ fun r' made => ?_
  cases begun : beginIssue reg d.db ⟨tenantId, feeId, none, none, true⟩ input.mode with
  | error e => simp [lateFeeNext, goOn, begun, Except.map, Except.toOption] at made
  | ok req =>
    simp only [lateFeeNext, goOn, begun, Except.map, Except.toOption, Option.some.injEq] at made
    subst made
    obtain ⟨a, row, -, shape⟩ := beginIssue_ok begun
    have rectifies : a.invoice.rectifiesInvoiceId = none := by
      obtain ⟨o, linked⟩ := Option.ne_none_iff_exists'.mp h
      obtain ⟨rk, _, found, fee, -⟩ := sound.fee _ _ (sound.charged _ _ linked)
      rw [LateFeeDb.book_find row] at found
      cases found
      exact fee.rectifies
    rcases shape with ⟨rfl, isRectification⟩ | rfl | ⟨doc, rfl⟩
    · exact absurd rectifies isRectification
    · exact ⟨_, _, .inl rfl, rectifies, h⟩
    · exact ⟨_, _, .inr (.inr ⟨doc, rfl⟩), rectifies, h⟩

theorem issue_move {req : Request} (h : LateFeeRequest.Sound reg d (.issue req)) :
    LateFeeMove reg d (.issue req) (issueStep reg sha input d req).1
      (issueStep reg sha input d req).2 := by
  have plain : LateFeeRequest.Plain reg (.issue req) := ⟨fun _ h => h, fun _ h => h, fun _ _ h => h⟩
  obtain ⟨args, existing, shape, rectifies, linked⟩ := h
  rcases shape with rfl | rfl | ⟨doc, rfl⟩
  · simp only [issueStep, commitRequest]
    cases written : issueInHoldedTx reg input.clock args.tenantId args.invoiceId existing d.db with
    | error e => exact .read plain goesOn_none
    | ok db =>
      have same : (d.withDb db).book = d.book := issueInHoldedTx_view (fun _ _ _ => rfl) written
      refine .plain plain rfl rfl (fun j r found => ⟨r, by rw [← found]; exact congrArg (·.find j) same,
        .refl r, fun _ h => h⟩) (fun o ro found annulled => .inl ⟨ro, ?_, annulled⟩) fun r' made => ?_
      · rw [← found]
        exact (congrArg (·.find o) same).symm
      · cases made
        exact ⟨args, existing, .inr (.inl rfl), rectifies, linked⟩
  · refine .read plain fun r' made => ?_
    obtain ⟨doc, -, rfl⟩ := Option.map_eq_some_iff.mp made
    exact ⟨args, existing, .inr (.inr ⟨_, rfl⟩), rectifies, linked⟩
  · simp only [issueStep, commitRequest]
    cases issued : issueTx reg sha input.clock args.tenantId args.invoiceId existing args.settleZero
      doc d.db with
    | error e => exact .read plain goesOn_none
    | ok db =>
      have book := issueTx_lateFee issued fun h => absurd rectifies h
      refine .plain plain rfl rfl (LateFeeDb.become_keeps book fun r _ => ⟨?_, ?_⟩)
        (fun o ro found annulled => .inl (LateFeeDb.become_rectified book found annulled))
        goesOn_none
      · intro h
        cases h
      · exact fun unlinked => absurd unlinked linked

theorem findOrThrow_of {a : Account} (row : d.db.accounts.find args.invoiceId = some a)
    (sees : a.lateFee.Visible reg args) (kept : a.invoice.deletedAt = none) :
    findOrThrow reg d.db args.tenantId args.invoiceId args.facilityScope = .ok a.invoice := by
  have found : d.db.findAccount args.tenantId args.invoiceId = some a := by
    rw [Db.findAccount, row]
    simpa [Option.filter_some, Account.lateFee] using sees.1
  simp only [findOrThrow, found, kept, ne_eq, not_true_eq_false, if_false]
  exact if_pos sees.2

theorem cancelRead_move (args : InvoiceArgs) :
    LateFeeTakes reg sha d input (.cancelRead args) := by
  refine .kept rfl rfl (.refl d) (fun o ro found annulled => .inl ⟨ro, found, annulled⟩)
    (fun r' made => ?_) (fun _ h => h.elim) (fun _ _ _ _ h => h.elim)
    fun k rk drops found fee draft => ?_
  · cases begun : beginCancel reg args d with
    | error e => simp [lateFeeNext, goOn, begun, Except.toOption] at made
    | ok next =>
      simp only [lateFeeNext, goOn, begun, Except.toOption, Option.some.injEq] at made
      subst made
      obtain ⟨existing, found, begun⟩ := Outcome.bind_ok begun
      obtain ⟨a, row, same, -⟩ := findOrThrow_visible found
      cases begun
      split
      · rename_i receipt
        exact ⟨a.lateFee, LateFeeDb.book_find row, by rw [← same] at receipt; exact receipt⟩
      · split <;> trivial
  · obtain ⟨rfl, sees⟩ := drops
    rw [LateFeeDb.book, Table.find_view, Option.map_eq_some_iff] at found
    obtain ⟨a, row, rfl⟩ := found
    have read : findOrThrow reg d.db args.tenantId args.invoiceId args.facilityScope =
        .ok a.invoice :=
      findOrThrow_of row sees (by simpa [Account.lateFee] using fee.deleted)
    have status : a.invoice.status = .draft := by simpa [Account.lateFee] using draft
    have kind : a.invoice.kind = .invoice := fee.kind
    refine ⟨.cancelDraft args, ?_, rfl, sees.1⟩
    simp [lateFeeNext, goOn, beginCancel, read, bind, Except.bind, pure, Except.pure,
      Except.toOption, kind, status]

theorem cancel_keeps
    (h : ∀ a, d.db.accounts.find id = some a → a.invoice.status = .draft ∨ a.invoice.kind = .depositReceipt) :
    d.Keeps (d.modify id fun a => { a with invoice := a.invoice.cancel clock }) := by
  refine LateFeeDb.modify_keeps fun a row => ⟨?_, fun _ _ => .inr rfl⟩
  have follows : a.lateFee.Follows (a.lateFee.become true false) := by
    refine .become fun _ => ?_
    rcases h a row with draft | receipt
    · exact .inl (.inl (by simp [Account.lateFee, draft]))
    · exact .inr receipt
  exact follows

theorem cancel_rectified
    (found : (d.modify id fun a => { a with invoice := a.invoice.cancel clock }).book.find o = some ro)
    (annulled : ro.rectified = true) : ∃ r, d.book.find o = some r ∧ r.rectified = true := by
  rcases LateFeeDb.modify_rectified found annulled with before | ⟨-, a, -, h⟩
  · exact before
  · cases h

theorem cancelReceipt_move (h : LateFeeRequest.Sound reg d (.cancelReceipt args)) :
    LateFeeTakes reg sha d input (.cancelReceipt args) := by
  have plain : LateFeeRequest.Plain reg (.cancelReceipt args) :=
    ⟨fun _ h => h, fun _ h => h, fun _ _ h => h⟩
  obtain ⟨r, found, kind⟩ := h
  simp only [LateFeeTakes, lateFeeNext]
  cases cancelled : cancelDepositReceipt input.clock (args.cancelArgs input) d.db with
  | error e => exact .read plain goesOn_none
  | ok db =>
    obtain ⟨_, -, cancelled⟩ := Outcome.bind_ok cancelled
    obtain ⟨_, -, cancelled⟩ := Outcome.bind_ok cancelled
    obtain ⟨_, -, cancelled⟩ := Outcome.bind_ok cancelled
    obtain ⟨_, -, cancelled⟩ := Outcome.bind_ok cancelled
    cases cancelled
    refine .plain plain rfl rfl (cancel_keeps fun a row => .inr ?_)
      (fun o ro found annulled => .inl (cancel_rectified found annulled))
      goesOn_none
    have same := LateFeeDb.book_find (d := d) row
    rw [InvoiceArgs.cancelArgs, found] at same
    cases same
    exact kind

theorem cancelDraft_move (args : InvoiceArgs) :
    LateFeeMove reg d (.cancelDraft args) (cancelDraftTx args input d).1
      (cancelDraftTx args input d).2 := by
  have reads : (∀ rk, rk.tenantId = args.tenantId → d.book.find args.invoiceId = some rk →
      rk.draft = false) → LateFeeMove reg d (.cancelDraft args) d (some (.checkIssuer args)) := by
    intro issued
    refine .kept rfl rfl (.refl d) (fun o ro found annulled => .inl ⟨ro, found, annulled⟩)
      (fun r' made => ?_) (fun _ h => h.elim) (fun _ _ _ _ h => h.elim)
      fun k rk drops found _ draft => ?_
    · cases made
      trivial
    · obtain ⟨rfl, tenant⟩ := drops
      rw [issued rk tenant found] at draft
      cases draft
  unfold cancelDraftTx
  split
  · rename_i missing
    refine reads fun rk tenant found => ?_
    rw [LateFeeDb.book, Table.find_view, Option.map_eq_some_iff] at found
    obtain ⟨a, row, rfl⟩ := found
    rw [Db.findAccount, row] at missing
    simp only [Option.filter_some, ite_eq_right_iff, reduceCtorEq, imp_false,
      decide_eq_true_eq] at missing
    exact absurd tenant missing
  · rename_i a visible
    obtain ⟨row, -⟩ := Db.findAccount_some visible
    split
    · rename_i draft
      refine .kept rfl rfl (cancel_keeps fun b row' => .inl ?_)
        (fun o ro found annulled => .inl (cancel_rectified found annulled))
        goesOn_none (fun _ h => h.elim) (fun _ _ _ _ h => h.elim)
        fun k rk drops found _ pending => ?_
      · rw [row] at row'
        cases row'
        exact draft
      · obtain ⟨rfl, -⟩ := drops
        rw [LateFeeDb.book, Table.find_view, LateFeeDb.modify, LateFeeDb.withDb, Db.modifyAccount,
          Table.find_modify_self, row] at found
        cases found
        cases pending
    · rename_i issued
      refine reads fun rk _ found => ?_
      rw [LateFeeDb.book_find row] at found
      cases found
      simpa [Account.lateFee] using issued

theorem checkIssuer_move (args : InvoiceArgs) :
    LateFeeTakes reg sha d input (.checkIssuer args) := by
  refine .read ⟨fun _ h => h, fun _ h => h, fun _ _ h => h⟩ fun r' made => ?_
  cases checked : checkIssuer reg args d with
  | error e => simp [lateFeeNext, goOn, checked, Except.toOption] at made
  | ok next =>
    simp only [lateFeeNext, goOn, checked, Except.toOption, Option.some.injEq] at made
    subst made
    obtain ⟨row, -, checked⟩ := Outcome.bind_ok checked
    split at checked
    · cases checked
      trivial
    · obtain ⟨_, -, checked⟩ := Outcome.bind_ok checked
      obtain ⟨_, -, checked⟩ := Outcome.bind_ok checked
      cases checked
      trivial

theorem annul_move (args : InvoiceArgs) :
    LateFeeTakes reg sha d input (.annul args) := by
  have plain : LateFeeRequest.Plain reg (.annul args) :=
    ⟨fun _ h => h, fun _ h => h, fun _ _ h => h⟩
  simp only [LateFeeTakes, lateFeeNext]
  cases annulled : annulTx args input d with
  | error e => exact .read plain goesOn_none
  | ok made =>
    obtain ⟨fresh, found, annulled⟩ := Outcome.bind_ok annulled
    obtain ⟨_, annullable, annulled⟩ := Outcome.bind_ok annulled
    cases annulled
    obtain ⟨row, tenant⟩ := Db.findAccount_some (orMissing_ok found)
    obtain ⟨_, payable, -⟩ := Outcome.bind_ok annullable
    have payable : fresh.invoice.status.payable = true := by
      simpa using refuseIf_ok payable
    have draft := InvoiceStatus.payable_ne_draft payable
    have cancelled := InvoiceStatus.payable_ne_cancelled payable
    have keeps : d.Keeps (d.modify args.invoiceId (Account.annul input.clock)) := by
      refine LateFeeDb.modify_keeps fun a row' => ⟨?_, fun _ unissued => ?_⟩
      · have follows : a.lateFee.Follows (a.lateFee.become false true) :=
          .become fun h => by cases h
        exact follows
      · rw [row] at row'
        cases row'
        rcases unissued with h | h
        · simp [Account.lateFee, draft] at h
        · simp [Account.lateFee, cancelled] at h
    refine .plain plain rfl rfl keeps (fun o ro found annulled => ?_) fun r' made => ?_
    · rcases LateFeeDb.modify_rectified found annulled with before | ⟨rfl, -⟩
      · exact .inl before
      · exact .inr ⟨_, rfl, rfl⟩
    · cases made
      obtain ⟨r', found', follows, -⟩ := keeps _ _ (LateFeeDb.book_find row)
      exact ⟨payable, r', found', follows.tenantId.trans tenant⟩

end

section

variable {reg : Registry} {sha : Sha256} {d : LateFeeDb} {input : LateFeeInput}

theorem Account.compensate_lateFee (clock : Clock) (a : Account) :
    (a.compensate clock).lateFee = a.lateFee := by
  unfold Account.compensate Invoice.compensated
  split
  · rename_i issued
    simp [Account.lateFee, issued]
  · rfl

/-- The issue of a rectification by differences changes its own row, if any. -/
theorem issueInvoice_lateFee {args : IssueArgs} {mode : InvoicingMode} {answer : Option HoldedDocument}
    (h : issueInvoice reg sha clock args mode answer db = .ok db')
    (differs : ∀ a, db.accounts.find args.invoiceId = some a → a.invoice.correctionMethod ≠ some .bySubstitution) :
    db'.accounts.view Account.lateFee = db.accounts.view Account.lateFee ∨
      db'.accounts.view Account.lateFee = (db.accounts.view Account.lateFee).modify
        args.invoiceId (LateFeeRecord.become false false) := by
  obtain ⟨req, begun, h⟩ := Outcome.bind_ok h
  obtain ⟨a, row, -, shape⟩ := beginIssue_ok begun
  have method := differs a row
  rcases shape with ⟨rfl, -⟩ | rfl | ⟨doc, rfl⟩
  · exact .inl (awaitHoldedCreditNoteTx_view (fun _ => rfl) h)
  · obtain ⟨reserved, written, h⟩ := Outcome.bind_ok h
    cases h
    have same : reserved.accounts.view Account.lateFee = db.accounts.view Account.lateFee :=
      issueInHoldedTx_view (fun _ _ _ => rfl) written
    unfold issueAnswered
    split
    · exact .inl same
    · split
      · rename_i issued
        rw [← same]
        exact .inr (issueTx_lateFee issued fun _ => method)
      · exact .inl same
  · exact .inr (issueTx_lateFee h fun _ => method)

/-- The credit of an annulled invoice is one more invoice: the others stay as they are. -/
theorem creditAnnulled_lateFee {args : CancelArgs} (h : creditAnnulled reg sha clock args original db = .ok db') :
    (∀ j r, (db.accounts.view Account.lateFee).find j = some r →
      (db'.accounts.view Account.lateFee).find j = some r) ∧
    ∀ j r, (db'.accounts.view Account.lateFee).find j = some r → r.rectified = true →
      (db.accounts.view Account.lateFee).find j = some r := by
  obtain ⟨drafted, rectified, h⟩ := Outcome.bind_ok h
  obtain ⟨o, totals, items, -, -, -, rfl⟩ := rectify_ok rectified
  let row : Account :=
    ⟨draftRectification (args.rectifyArgs original) o.invoice totals items, .empty⟩
  have fresh : row.lateFee.rectified = false := rfl
  have pushed : (db.accounts.push row).view Account.lateFee =
      (db.accounts.view Account.lateFee).push row.lateFee := Table.view_push ..
  have key : (db.accounts.view Account.lateFee).nextKey = db.accounts.nextKey :=
    Table.nextKey_view ..
  -- Only the row of the credit differs from the invoices there were.
  have both : ∀ book : LateFeeBook, book = (db.accounts.view Account.lateFee).push row.lateFee ∨
      book = ((db.accounts.view Account.lateFee).push row.lateFee).modify db.accounts.nextKey
        (LateFeeRecord.become false false) →
      (∀ j r, (db.accounts.view Account.lateFee).find j = some r → book.find j = some r) ∧
      ∀ j r, book.find j = some r → r.rectified = true →
        (db.accounts.view Account.lateFee).find j = some r := by
    intro book shape
    have old : ∀ j r, (db.accounts.view Account.lateFee).find j = some r →
        j ≠ db.accounts.nextKey := by
      rintro j r found rfl
      rw [← key, Table.find_nextKey] at found
      cases found
    have kept : ∀ j r, ((db.accounts.view Account.lateFee).push row.lateFee).find j = some r →
        r.rectified = true → (db.accounts.view Account.lateFee).find j = some r := by
      intro j r found annulled
      rw [Table.find_push] at found
      split at found
      · cases found
        rw [fresh] at annulled
        cases annulled
      · exact found
    rcases shape with rfl | rfl
    · exact ⟨fun j r found => Table.find_push_of_some found _, kept⟩
    · refine ⟨fun j r found => ?_, fun j r found annulled => ?_⟩
      · rw [Table.find_modify_ne _ (old j r found)]
        exact Table.find_push_of_some found _
      · rcases Table.find_modify_cases found with ⟨-, before⟩ | ⟨-, r', -, rfl⟩
        · exact kept j r before annulled
        · cases annulled
  have differs : ∀ a, (db.accounts.push row).find db.accounts.nextKey = some a →
      a.invoice.correctionMethod ≠ some .bySubstitution := by
    intro a found
    rw [Table.find_push, if_pos rfl] at found
    cases found
    simp [row, draftRectification, CancelArgs.rectifyArgs]
  split at h
  · cases h
    exact both _ (.inl pushed)
  · rename_i issued done
    cases h
    have compensated : (issued.modifyAccount db.accounts.nextKey
        (Account.compensate clock)).accounts.view Account.lateFee =
        issued.accounts.view Account.lateFee :=
      Table.view_modify_same fun a _ => a.compensate_lateFee clock
    rw [compensated]
    rcases issueInvoice_lateFee done differs with same | changed
    · exact both _ (.inl (same.trans pushed))
    · refine both _ (.inr ?_)
      rw [changed, ← pushed]
      rfl

theorem credit_move (h : LateFeeRequest.Sound reg d (.credit args original)) :
    LateFeeTakes reg sha d input (.credit args original) := by
  obtain ⟨payable, ro, found, tenant⟩ := h
  simp only [LateFeeTakes, lateFeeNext]
  cases credited : creditAnnulled reg sha input.clock (args.cancelArgs input) original d.db with
  | error e =>
    refine .kept rfl rfl (.refl d) (fun o ro found annulled => .inl ⟨ro, found, annulled⟩)
      (fun r' made => ?_) (fun _ h => h.elim) (fun _ o _ _ annuls _ _ _ _ _ _ => ?_)
      fun _ _ h => h.elim
    · cases made
      exact ⟨payable, ro, found, tenant⟩
    · exact ⟨_, rfl, .inl annuls⟩
  | ok db =>
    obtain ⟨kept, back⟩ := creditAnnulled_lateFee credited
    refine .kept rfl rfl (fun j r found => ⟨r, kept j r found, .refl r, fun _ h => h⟩)
      (fun o ro found annulled => .inl ⟨ro, back o ro found annulled, annulled⟩)
      (fun r' made => ?_) (fun _ h => h.elim) (fun _ o _ _ annuls _ _ _ _ _ _ => ?_)
      fun _ _ h => h.elim
    · cases made
      exact ⟨ro, kept _ _ found, tenant⟩
    · exact ⟨_, rfl, .inl annuls⟩

theorem revert_move (h : LateFeeRequest.Sound reg d (.revert args original)) :
    LateFeeTakes reg sha d input (.revert args original) := by
  obtain ⟨payable, -⟩ := h
  have draft := InvoiceStatus.payable_ne_draft payable
  have cancelled := InvoiceStatus.payable_ne_cancelled payable
  have restored : ∀ a : Account, (a.restore original).lateFee.rectified = false := by
    intro a
    unfold Account.restore
    split
    · have : original.status ≠ .rectified := by
        intro h
        simp [h, InvoiceStatus.payable] at payable
      simp [Account.lateFee, this]
    · rename_i other
      simp [Account.lateFee, other]
  have back : ∀ o ro, (d.modify args.invoiceId (Account.restore original)).book.find o = some ro →
      ro.rectified = true → ∃ r, d.book.find o = some r ∧ r.rectified = true := by
    intro o ro found annulled
    rcases LateFeeDb.modify_rectified found annulled with before | ⟨-, a, -, h⟩
    · exact before
    · rw [restored a] at h
      cases h
  refine .kept rfl rfl (LateFeeDb.modify_keeps fun a row => ?_)
    (fun o ro found annulled => .inl (back o ro found annulled)) goesOn_none
    (fun _ h => h.elim) (fun k o rk ro annuls _ _ _ _ found annulled => ?_) fun _ _ h => h.elim
  · unfold Account.restore
    split
    · rename_i annulled
      refine ⟨⟨rfl, rfl, rfl, rfl, rfl, ?_, ?_, ?_⟩, fun _ unissued => ?_⟩
      · simp [Account.lateFee, draft]
      · simp [Account.lateFee, draft]
      · simp [Account.lateFee, cancelled]
      · rcases unissued with h | h <;> simp [Account.lateFee, annulled] at h
    · exact ⟨.refl _, fun _ h => h⟩
  · cases annuls
    rw [LateFeeDb.book, Table.find_view] at found
    simp only [lateFeeNext, LateFeeDb.modify, LateFeeDb.withDb, Db.modifyAccount,
      Table.find_modify_self, Option.map_map, Option.map_eq_some_iff, Function.comp_apply] at found
    obtain ⟨a, -, rfl⟩ := found
    rw [restored a] at annulled
    cases annulled

theorem cleanUp_move (sound : LateFeesSound d) (h : LateFeeRequest.Sound reg d (.cleanUp args)) :
    LateFeeTakes reg sha d input (.cleanUp args) := by
  obtain ⟨ro, foundOwner, tenant⟩ := h
  refine .kept rfl rfl (.refl d) (fun o ro found annulled => .inl ⟨ro, found, annulled⟩)
    (fun r' made => ?_) (fun _ h => h.elim)
    (fun k o rk ro' annuls linked found fee draft foundOwner' _ => ?_) fun _ _ h => h.elim
  · obtain ⟨⟨feeId, a⟩, -, made⟩ := Option.bind_eq_some_iff.mp made
    by_cases paid : a.invoice.amountPaid > 0
    · simp [paid] at made
    · simp only [paid, if_false, Option.some.injEq] at made
      subst made
      trivial
  · cases annuls
    change d.lateFeeFor k = some args.invoiceId at linked
    obtain ⟨rk', ro'', found', -, owes, sameTenant, -⟩ :=
      sound.fee _ _ (sound.charged _ _ linked)
    change d.book.find k = some rk at found
    rw [found] at found'
    cases found'
    have ownerTenant : rk.tenantId = args.tenantId := by
      have same := owes.found
      rw [foundOwner] at same
      cases same
      exact sameTenant.symm.trans tenant
    rw [LateFeeDb.book, Table.find_view, Option.map_eq_some_iff] at found
    obtain ⟨a, row, rfl⟩ := found
    have status : a.invoice.status = .draft := by simpa [Account.lateFee] using draft
    -- The fee is found: it is the only one of the invoice.
    obtain ⟨⟨k', b⟩, live⟩ : ∃ q, d.liveLateFee args = some q := by
      rw [← Option.isSome_iff_exists, LateFeeDb.liveLateFee, List.find?_isSome]
      have deleted : a.invoice.deletedAt = none := by simpa [Account.lateFee] using fee.deleted
      have own : a.invoice.tenantId = args.tenantId := ownerTenant
      exact ⟨(k, a), Table.find_eq_some.mp row, by simp [linked, own, status, deleted]⟩
    have only : k' = k := by
      have selected := List.find?_some live
      simp only [Bool.and_eq_true, decide_eq_true_eq] at selected
      exact sound.unique k' k _ selected.1.1.1 linked
    subst only
    have row' := Table.find_eq_some.mpr (List.mem_of_find?_eq_some live)
    rw [row] at row'
    cases row'
    have unpaid : ¬a.invoice.amountPaid > 0 := by
      have := fee.draftPaid
      simpa [Account.lateFee, status] using this
    refine ⟨.cancelRead ⟨args.tenantId, k', none⟩, ?_, .inr ⟨rfl, ownerTenant, ?_⟩⟩
    · simp only [lateFeeNext, cancelOrphanLateFee, live, Option.bind_some]
      exact if_neg unpaid
    · cases (a.lateFee.contractId.bind reg.contract).bind ContractTerms.facilityId <;> rfl

theorem overdue_move {ids : List InvoiceId}
    (h : LateFeeRequest.Sound reg d (.overdue ids)) :
    LateFeeTakes reg sha d input (.overdue ids) := by
  have marked : ∀ a : Account, a.markOverdue.lateFee = a.lateFee.become false false :=
    fun _ => rfl
  have row : ∀ j, (d.withDb (markOverdue ids d.db)).book.find j =
      (d.db.accounts.find j).map fun a => (if j ∈ ids then a.markOverdue else a).lateFee := by
    intro j
    rw [LateFeeDb.book, Table.find_view, LateFeeDb.withDb, markOverdue, Table.find_updateMany,
      Option.map_map]
    simp [Function.comp_def]
  refine .plain ⟨fun _ h => h, fun _ h => h, fun _ _ h => h⟩ rfl rfl (fun j r found => ?_)
    (fun o ro found annulled => .inl ?_) goesOn_none
  · rw [LateFeeDb.book, Table.find_view, Option.map_eq_some_iff] at found
    obtain ⟨a, before, rfl⟩ := found
    refine ⟨(if j ∈ ids then a.markOverdue else a).lateFee, by
      change (d.withDb (markOverdue ids d.db)).book.find j = _
      rw [row j, before]
      rfl, ?_⟩
    by_cases mem : j ∈ ids
    · rw [if_pos mem, marked]
      obtain ⟨r, found', -, issued⟩ := h j mem
      rw [LateFeeDb.book_find before] at found'
      cases found'
      exact ⟨.become (by intro h; cases h), fun _ unissued => absurd unissued issued⟩
    · rw [if_neg mem]
      exact ⟨.refl _, fun _ h => h⟩
  · change (d.withDb (markOverdue ids d.db)).book.find o = _ at found
    rw [row o, Option.map_eq_some_iff] at found
    obtain ⟨a, before, rfl⟩ := found
    split at annulled
    · cases annulled
    · exact ⟨a.lateFee, LateFeeDb.book_find before, annulled⟩

theorem lateFeeNext_move {r : LateFeeRequest} (sound : LateFeesSound d) (h : r.Sound reg d)
    (unannulled : linksUnannulled d r input) :
    LateFeeTakes reg sha d input r := by
  cases r with
  | charge args => exact charge_move args
  | price args => exact price_move h
  | create args fee => exact create_move sound h
  | link args feeId => exact link_move sound h unannulled
  | issueRead tenantId feeId => exact issueRead_move sound h
  | issue req => exact issue_move h
  | cancelRead args => exact cancelRead_move args
  | cancelReceipt args => exact cancelReceipt_move h
  | cancelDraft args => exact cancelDraft_move args
  | checkIssuer args => exact checkIssuer_move args
  | annul args => exact annul_move args
  | credit args original => exact credit_move h
  | revert args original => exact revert_move h
  | cleanUp args => exact cleanUp_move sound h
  | overdue ids => exact overdue_move h

end

/-! ### Every interleaving -/

section

variable {reg : Registry} {sha : Sha256}

/-- No request under way, and no draft of a fee that is not linked or whose invoice is annulled. -/
structure LateFeeStart (s : State LateFeeDb LateFeeRequest) : Prop where
  idle : s.running = []
  sound : LateFeesSound s.db
  settled : ∀ k o rk, s.db.chargedOn k = some o → s.db.book.find k = some rk → rk.draft = true →
    s.db.lateFeeFor k = some o ∧ ∀ ro, s.db.book.find o = some ro → ro.rectified = false

theorem LateFeeStart.covered {s : State LateFeeDb LateFeeRequest} (start : LateFeeStart s) :
    LateFeesCovered reg s := by
  intro k o rk charged found draft
  obtain ⟨linked, payable⟩ := start.settled k o rk charged found draft
  refine ⟨fun unlinked => ?_, fun ro _ foundOwner annulled => ?_⟩
  · rw [linked] at unlinked
    cases unlinked
  · rw [payable ro foundOwner] at annulled
    cases annulled

theorem LateFeeCall.enter_sound {d : LateFeeDb} {call : LateFeeCall} {r : LateFeeRequest}
    (h : call.enter d = some r) : r.Sound reg d := by
  cases call with
  | createLateFee args =>
    cases h
    trivial
  | executeAction tenantId invoiceId paymentInFlight inActivePlan lateFeeEnabled =>
    obtain ⟨a, -, h⟩ := Option.bind_eq_some_iff.mp h
    split at h
    · cases h
      trivial
    · cases h
  | cancel args =>
    cases h
    trivial
  | markOverdue now inFlight =>
    cases h
    intro id mem
    obtain ⟨⟨j, a⟩, selected, rfl⟩ := List.mem_map.mp mem
    obtain ⟨row, selected⟩ := List.mem_filter.mp selected
    simp only [Bool.and_eq_true, decide_eq_true_eq] at selected
    refine ⟨a.lateFee, LateFeeDb.book_find (Table.find_eq_some.mpr row), selected.1.2, ?_⟩
    rintro (draft | cancelled)
    · simp [Account.lateFee, selected.1.1.1.1] at draft
    · simp [Account.lateFee, selected.1.1.1.1] at cancelled

theorem lateFees_next {d d' : LateFeeDb} {r : LateFeeRequest} {input : LateFeeInput}
    {rest : Option LateFeeRequest} (sound : LateFeesSound d) (h : r.Sound reg d)
    (unannulled : linksUnannulled d r input)
    (made : (lateFees reg sha).next d r input = some (d', rest)) : LateFeeMove reg d r d' rest := by
  have same : lateFeeNext reg sha d input r = (d', rest) := Option.some.inj made
  have move := @lateFeeNext_move reg sha d input r sound h unannulled
  rwa [LateFeeTakes, same] at move

theorem lateFees_invariant {s t : State LateFeeDb LateFeeRequest} (start : LateFeeStart s)
    (run : Run (lateFees reg sha).step (System.admits linksUnannulled) s t) :
    LateFeesSound t.db ∧ LateFeesCovered reg t := by
  have invariant := System.invariant_with (P := LateFeesSound) (Q := fun d r => r.Sound reg d)
    (J := LateFeesCovered reg) run start.sound (by simp [start.idle]) start.covered
    (fun _ entered => LateFeeCall.enter_sound entered)
    (fun sound h unannulled made => by
      have move := lateFees_next sound h unannulled made
      exact ⟨move.commit.sound sound, move.next, fun other h => h.commit sound move.commit⟩)
    (fun _ covered _ k o rk charged found draft => by
      obtain ⟨first, second⟩ := covered k o rk charged found draft
      refine ⟨fun unlinked => ?_, fun ro linked foundOwner annulled => ?_⟩
      · obtain ⟨r, mem, does⟩ := first unlinked
        exact ⟨r, List.mem_append_left _ mem, does⟩
      · obtain ⟨r, mem, does⟩ := second ro linked foundOwner annulled
        exact ⟨r, List.mem_append_left _ mem, does⟩)
    (fun sound h covered unannulled found made =>
      covered.move sound found (lateFees_next sound h unannulled made))
  exact ⟨invariant.1, invariant.2.2⟩

/-- An invoice has one late fee at most and a late fee has none, at any time; and once no request is
under way, a fee that lost the race for its invoice is cancelled and the fee of an annulled invoice is
no draft. This as long as no fee is linked to an invoice that has been annulled. -/
theorem late_fees_settled {s t : State LateFeeDb LateFeeRequest} (start : LateFeeStart s)
    (run : Run (lateFees reg sha).step (System.admits linksUnannulled) s t) :
    (∀ k k' o, t.db.lateFeeFor k = some o → t.db.lateFeeFor k' = some o → k = k') ∧
    (∀ k o, t.db.chargedOn k = some o → t.db.chargedOn o = none ∧ t.db.lateFeeFor o = none) ∧
    (t.running = [] → ∀ k o a b, t.db.chargedOn k = some o → t.db.db.accounts.find k = some a →
      t.db.db.accounts.find o = some b →
      (t.db.lateFeeFor k = none → a.invoice.status = .cancelled) ∧
      (b.invoice.status = .rectified → a.invoice.status ≠ .draft)) := by
  obtain ⟨sound, covered⟩ := lateFees_invariant start run
  refine ⟨sound.unique, fun k o charged => ?_, fun idle k o a b charged foundFee foundOwner => ?_⟩
  · obtain ⟨_, ro, -, -, owes, -⟩ := sound.fee k o charged
    refine ⟨?_, owes.unlinked⟩
    by_contra fee
    obtain ⟨o', fee⟩ := Option.ne_none_iff_exists'.mp fee
    obtain ⟨rk, _, found, -, -, -, unissued⟩ := sound.fee o o' fee
    rw [owes.found] at found
    cases found
    exact owes.issued (unissued owes.unlinked)
  · have waiting := covered k o a.lateFee charged (LateFeeDb.book_find foundFee)
    simp only [idle, List.not_mem_nil, false_and, exists_false, imp_false] at waiting
    have notDraft : a.lateFee.draft = false ↔ a.invoice.status ≠ .draft := by simp [Account.lateFee]
    refine ⟨fun unlinked => ?_, fun annulled => ?_⟩
    · obtain ⟨rk, _, found, -, -, -, unissued⟩ := sound.fee k o charged
      rw [LateFeeDb.book_find foundFee] at found
      cases found
      rcases unissued unlinked with draft | cancelled
      · exact absurd unlinked (waiting draft).1
      · simpa [Account.lateFee] using cancelled
    · intro draft
      have isDraft : a.lateFee.draft = true := by simp [Account.lateFee, draft]
      obtain ⟨linked, payable⟩ := waiting isDraft
      obtain ⟨o', link⟩ := Option.ne_none_iff_exists'.mp linked
      have same := sound.charged k o' link
      rw [charged] at same
      cases same
      exact payable b.lateFee link (LateFeeDb.book_find foundOwner)
        (by simp [Account.lateFee, annulled])

end

def oneOverdue : State LateFeeDb LateFeeRequest where
  db := {
    db := {
      accounts := Table.empty.push ⟨{ draftInvoice 1 0 0 10000 with status := .overdue }, .empty⟩
      series := (Table.empty.push (newSeries 1 "FA" true)).push
        { newSeries 1 "R" true with isDefault := false, isRectification := true } }
    lateFeeFor _ := none
    chargedOn _ := none }
  running := []

theorem oneOverdue_start : LateFeeStart oneOverdue where
  idle := rfl
  sound := {
    unique := nofun
    charged := nofun
    fee := nofun }
  settled := nofun

def fivePercent (mode : InvoicingMode) : LateFeeInput where
  clock := noon 20000
  settings := ⟨true, .percentage, 5⟩
  defaultSeries := some 0
  ownerSeries := 0
  refusal := none
  placeholderNumber := "DRAFT"
  mode
  answer := none
  remittance := none
  rectSeriesId := 1

/-- The request under way number `i` makes its next steps. -/
def advances (mode : InvoicingMode) (i : ℕ) (steps : ℕ) : List (Action LateFeeCall LateFeeInput) :=
  List.replicate steps (.advance i (fivePercent mode))

/-- Two requests charge the same invoice: the second one finds the first fee linked and cancels its
own. The invoice is annulled before the first fee is issued, and that fee is cancelled too. -/
theorem late_fees_settled_race : ∃ t : State LateFeeDb LateFeeRequest,
    t.running = [] ∧ t.db.lateFeeFor 1 = some 0 ∧ t.db.chargedOn 0 = none ∧
    (∃ b, t.db.db.accounts.find 0 = some b ∧ b.invoice.status = .rectified) ∧
    (∀ a, t.db.db.accounts.find 1 = some a → a.invoice.status ≠ .draft) ∧
    ∀ a, t.db.db.accounts.find 2 = some a → a.invoice.status = .cancelled := by
  obtain ⟨t, run, ends⟩ := Run.exists_of_exec (lateFees oneTenant .bytes).step
    (System.admits linksUnannulled) oneOverdue
    ([.start (.createLateFee ⟨1, 0, none⟩), .start (.createLateFee ⟨1, 0, none⟩)] ++
      advances .app 0 3 ++ advances .app 1 3 ++ advances .app 0 1 ++ advances .app 1 3 ++
      [.start (.cancel ⟨1, 0, none⟩)] ++ advances .app 1 7 ++ advances .app 0 1)
    (fun t => t.running.isEmpty && t.db.lateFeeFor 1 = some 0 && t.db.chargedOn 2 = some 0 &&
      t.db.lateFeeFor 2 = none &&
      (t.db.db.accounts.find 0).any fun b => b.invoice.status = .rectified) (by decide +kernel)
  simp only [Bool.and_eq_true, List.isEmpty_iff, decide_eq_true_eq, Option.any_eq_true] at ends
  obtain ⟨⟨⟨⟨idle, first⟩, second⟩, lost⟩, b, foundOwner, rectified⟩ := ends
  have charged := (lateFees_invariant oneOverdue_start run).1.charged 1 0 first
  obtain ⟨-, noFee, settled⟩ := late_fees_settled oneOverdue_start run
  exact ⟨t, idle, first, (noFee 1 0 charged).1, ⟨b, foundOwner, rectified⟩,
    fun a found => (settled idle 1 0 a b charged found foundOwner).2 rectified,
    fun a found => (settled idle 2 0 a b second found foundOwner).1 lost⟩

/-- A fee is priced, its invoice is annulled, and then the fee is drafted and linked: Holded does not
number it, and it stays as a draft on an invoice that no longer owes anything. -/
theorem late_fee_left_on_annulled : ¬∀ (reg : Registry) (sha : Sha256)
    (s t : State LateFeeDb LateFeeRequest), LateFeeStart s →
    Reaches (lateFees reg sha).step s t → t.running = [] → ∀ k o a b,
    t.db.lateFeeFor k = some o → t.db.db.accounts.find k = some a →
    t.db.db.accounts.find o = some b → b.invoice.status = .rectified →
    a.invoice.status ≠ .draft := by
  intro settled
  obtain ⟨t, run, ends⟩ := Run.exists_of_exec (lateFees oneTenant .bytes).step (fun _ _ => True)
    oneOverdue
    ([.start (.createLateFee ⟨1, 0, none⟩)] ++ advances .holded 0 2 ++
      [.start (.cancel ⟨1, 0, none⟩)] ++ advances .holded 1 5 ++ advances .holded 0 5)
    (fun t => t.running.isEmpty && (List.range 3).any fun k => t.db.lateFeeFor k = some 0 &&
      ((t.db.db.accounts.find k).any fun a => a.invoice.status = .draft) &&
      (t.db.db.accounts.find 0).any fun b => b.invoice.status = .rectified) (by decide +kernel)
  simp only [Bool.and_eq_true, List.isEmpty_iff, List.any_eq_true, decide_eq_true_eq,
    Option.any_eq_true] at ends
  obtain ⟨idle, k, -, ⟨linked, a, foundFee, draft⟩, b, foundOwner, annulled⟩ := ends
  exact settled oneTenant .bytes oneOverdue t oneOverdue_start run idle k 0 a b linked foundFee
    foundOwner annulled draft

end StorageOS
