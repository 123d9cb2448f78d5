import StorageOS.Billing.LateFees

/-! What holds of late fees and their links, whatever is committed, and the requests that the drafts
of fees are left to. -/

namespace StorageOS

open Processes

structure LateFeeRecord where
  tenantId : TenantId
  contractId : Option ContractId
  kind : InvoiceKind
  rectifies : Option InvoiceId
  deleted : Bool
  draft : Bool
  /-- A draft with collections: there are none. -/
  draftPaid : Bool
  cancelled : Bool
  rectified : Bool

def Account.lateFee (a : Account) : LateFeeRecord where
  tenantId := a.invoice.tenantId
  contractId := a.invoice.contractId
  kind := a.invoice.kind
  rectifies := a.invoice.rectifiesInvoiceId
  deleted := a.invoice.deletedAt.isSome
  draft := a.invoice.status = .draft
  draftPaid := a.invoice.status = .draft && decide (0 < a.invoice.amountPaid)
  cancelled := a.invoice.status = .cancelled
  rectified := a.invoice.status = .rectified

abbrev LateFeeBook := Table InvoiceId LateFeeRecord

def LateFeeDb.book (d : LateFeeDb) : LateFeeBook := d.db.accounts.view Account.lateFee

theorem LateFeeDb.book_find {d : LateFeeDb} {id : InvoiceId} {a : Account}
    (found : d.db.accounts.find id = some a) : d.book.find id = some a.lateFee := by
  rw [LateFeeDb.book, Table.find_view, found]
  rfl

def LateFeeRecord.become (cancelled rectified : Bool) (r : LateFeeRecord) : LateFeeRecord :=
  { r with draft := false, draftPaid := false, cancelled, rectified }

def LateFeeRecord.unissued (r : LateFeeRecord) : Prop := r.draft = true ∨ r.cancelled = true

def LateFeeRecord.Visible (reg : Registry) (args : InvoiceArgs) (r : LateFeeRecord) : Prop :=
  r.tenantId = args.tenantId ∧ ((r.contractId.bind reg.contract).bind
    ContractTerms.facilityId).all (isFacilityAllowed args.facilityScope) = true

/-- What a step leaves of a row: only a draft or the receipt of a deposit is ever cancelled. -/
structure LateFeeRecord.Follows (r r' : LateFeeRecord) : Prop where
  tenantId : r'.tenantId = r.tenantId
  contractId : r'.contractId = r.contractId
  kind : r'.kind = r.kind
  rectifies : r'.rectifies = r.rectifies
  deleted : r'.deleted = r.deleted
  draft : r'.draft = true → r.draft = true
  draftPaid : r'.draftPaid = true → r.draftPaid = true
  cancelled : r'.cancelled = true → r.unissued ∨ r.kind = .depositReceipt

theorem LateFeeRecord.Follows.refl (r : LateFeeRecord) : r.Follows r :=
  ⟨rfl, rfl, rfl, rfl, rfl, id, id, fun h => .inl (.inr h)⟩

theorem LateFeeRecord.Follows.become {r : LateFeeRecord} {cancelled rectified : Bool}
    (h : cancelled = true → r.unissued ∨ r.kind = .depositReceipt) :
    r.Follows (r.become cancelled rectified) :=
  ⟨rfl, rfl, rfl, rfl, rfl, (by intro h; cases h), (by intro h; cases h), h⟩

theorem LateFeeRecord.Follows.visible {r r' : LateFeeRecord} (h : r.Follows r') {reg : Registry}
    {args : InvoiceArgs} : r'.Visible reg args ↔ r.Visible reg args := by
  rw [LateFeeRecord.Visible, LateFeeRecord.Visible, h.tenantId, h.contractId]

/-! ### What holds of the links -/

structure LateFeeDb.Owes (d : LateFeeDb) (o : InvoiceId) (r : LateFeeRecord) : Prop where
  found : d.book.find o = some r
  kind : r.kind = .invoice
  issued : ¬r.unissued
  unlinked : d.lateFeeFor o = none

structure LateFeeRecord.IsFee (r : LateFeeRecord) : Prop where
  kind : r.kind = .invoice
  rectifies : r.rectifies = none
  deleted : r.deleted = false
  draftPaid : r.draftPaid = false

/-- A fee belongs to the tenant of the invoice it is charged on, which is no fee, and is not issued
before it is linked; an invoice has one linked fee at most. -/
structure LateFeesSound (d : LateFeeDb) : Prop where
  unique : ∀ k k' o, d.lateFeeFor k = some o → d.lateFeeFor k' = some o → k = k'
  charged : ∀ k o, d.lateFeeFor k = some o → d.chargedOn k = some o
  fee : ∀ k o, d.chargedOn k = some o → ∃ rk ro, d.book.find k = some rk ∧ rk.IsFee ∧
    d.Owes o ro ∧ ro.tenantId = rk.tenantId ∧ (d.lateFeeFor k = none → rk.unissued)

/-- What a transaction does to the invoices and their links. -/
inductive LateFeeCommit (d d' : LateFeeDb) : Prop
  | kept (links : d'.lateFeeFor = d.lateFeeFor) (charges : d'.chargedOn = d.chargedOn)
      (rows : ∀ j r, d.book.find j = some r → ∃ r', d'.book.find j = some r' ∧ r.Follows r' ∧
        (d.lateFeeFor j = none → r.unissued → r'.unissued))
  | created (o : InvoiceId) (r ro : LateFeeRecord) (book : d'.book = d.book.push r)
      (links : d'.lateFeeFor = d.lateFeeFor)
      (charges : d'.chargedOn = Function.update d.chargedOn d.book.nextKey (some o))
      (fee : r.IsFee) (draft : r.draft = true) (owes : d.Owes o ro)
      (tenant : ro.tenantId = r.tenantId)
  | linked (k o : InvoiceId) (book : d'.book = d.book) (charges : d'.chargedOn = d.chargedOn)
      (charged : d.chargedOn k = some o)
      (alone : ∀ k', d.lateFeeFor k' = some o → k' = k)
      (links : d'.lateFeeFor = Function.update d.lateFeeFor k (some o))

section

variable {d d' : LateFeeDb}

theorem LateFeeCommit.rows (c : LateFeeCommit d d') {j : InvoiceId} {r : LateFeeRecord}
    (found : d.book.find j = some r) : ∃ r', d'.book.find j = some r' ∧ r.Follows r' := by
  cases c with
  | kept _ _ rows =>
    obtain ⟨r', found', follows, -⟩ := rows j r found
    exact ⟨r', found', follows⟩
  | created o r' ro book =>
    exact ⟨r, by rw [book]; exact Table.find_push_of_some found r', .refl r⟩
  | linked k o book => exact ⟨r, by rw [book]; exact found, .refl r⟩

theorem LateFeeCommit.charged_mono (sound : LateFeesSound d) (c : LateFeeCommit d d')
    {k o : InvoiceId} (h : d.chargedOn k = some o) : d'.chargedOn k = some o := by
  cases c with
  | kept _ charges => rwa [charges]
  | created o' r ro book _ charges =>
    rw [charges, Function.update_of_ne]
    · exact h
    · rintro rfl
      obtain ⟨rk, _, found, -⟩ := sound.fee _ _ h
      rw [Table.find_nextKey] at found
      cases found
  | linked k' o' _ charges => rwa [charges]

theorem LateFeeCommit.linked_mono (c : LateFeeCommit d d') {k : InvoiceId}
    (h : d.lateFeeFor k ≠ none) : d'.lateFeeFor k ≠ none := by
  cases c with
  | kept links => rwa [links]
  | created o r ro book links => rwa [links]
  | linked k' o' _ _ _ _ links =>
    rw [links, Function.update_apply]
    split
    · simp
    · exact h

theorem LateFeeCommit.owes (sound : LateFeesSound d) (c : LateFeeCommit d d') {o : InvoiceId}
    {ro : LateFeeRecord} (owes : d.Owes o ro) :
    ∃ ro', d'.Owes o ro' ∧ ro.Follows ro' := by
  obtain ⟨ro', found', follows⟩ := c.rows owes.found
  refine ⟨ro', ⟨found', follows.kind.trans owes.kind, ?_, ?_⟩, follows⟩
  · rintro (draft | cancelled)
    · exact owes.issued (.inl (follows.draft draft))
    · rcases follows.cancelled cancelled with unissued | receipt
      · exact owes.issued unissued
      · rw [owes.kind] at receipt
        cases receipt
  · cases c with
    | kept links => rw [links, owes.unlinked]
    | created _ _ _ _ links => rw [links, owes.unlinked]
    | linked k o' _ _ charged _ links =>
      -- A fee that is linked has not been issued, so it is not the invoice that owes.
      rw [links, Function.update_of_ne, owes.unlinked]
      rintro rfl
      obtain ⟨rk, _, found, -, -, -, unissued⟩ := sound.fee _ _ charged
      rw [owes.found] at found
      cases found
      exact owes.issued (unissued owes.unlinked)

theorem LateFeeCommit.fee (sound : LateFeesSound d) (c : LateFeeCommit d d') {k o : InvoiceId}
    (charged : d.chargedOn k = some o) :
    ∃ rk rk' ro', d.book.find k = some rk ∧ d'.book.find k = some rk' ∧ rk.Follows rk' ∧
      rk'.IsFee ∧ d'.Owes o ro' ∧ ro'.tenantId = rk'.tenantId ∧
      (d.lateFeeFor k = none → rk.unissued) := by
  obtain ⟨rk, ro, found, fee, owes, tenant, unissued⟩ := sound.fee k o charged
  obtain ⟨rk', found', follows⟩ := c.rows found
  obtain ⟨ro', owes', followsOwner⟩ := c.owes sound owes
  refine ⟨rk, rk', ro', found, found', follows, ⟨follows.kind.trans fee.kind,
    follows.rectifies.trans fee.rectifies, follows.deleted.trans fee.deleted, ?_⟩, owes', ?_,
    unissued⟩
  · by_contra paid
    have := follows.draftPaid (by simpa using paid)
    rw [fee.draftPaid] at this
    cases this
  · rw [followsOwner.tenantId, follows.tenantId, tenant]

theorem LateFeesSound.fresh (sound : LateFeesSound d) : d.lateFeeFor d.book.nextKey = none := by
  by_contra linked
  obtain ⟨o, linked⟩ := Option.ne_none_iff_exists'.mp linked
  obtain ⟨rk, _, found, -⟩ := sound.fee _ _ (sound.charged _ _ linked)
  rw [Table.find_nextKey] at found
  cases found

theorem LateFeeCommit.sound (sound : LateFeesSound d) (c : LateFeeCommit d d') :
    LateFeesSound d' := by
  have before := fun k o => @LateFeeCommit.fee d d' sound c k o
  have owner := fun o ro => @LateFeeCommit.owes d d' sound c o ro
  cases c with
  | kept links charges rows =>
    refine ⟨by rw [links]; exact sound.unique, by rw [links, charges]; exact sound.charged,
      fun k o charged => ?_⟩
    rw [charges] at charged
    obtain ⟨rk, rk', ro', found, found', -, fee, owes, tenant, unissued⟩ := before k o charged
    refine ⟨rk', ro', found', fee, owes, tenant, fun unlinked => ?_⟩
    obtain ⟨r', found'', -, keeps⟩ := rows k rk found
    rw [found'] at found''
    cases found''
    rw [links] at unlinked
    exact keeps unlinked (unissued unlinked)
  | created o r ro book links charges fee draft owes tenant =>
    have old : ∀ k o', d.chargedOn k = some o' → k ≠ d.book.nextKey := by
      rintro k o' charged rfl
      obtain ⟨rk, _, found, -⟩ := sound.fee _ _ charged
      rw [Table.find_nextKey] at found
      cases found
    refine ⟨by rw [links]; exact sound.unique, fun k o' linked => ?_, fun k o' charged => ?_⟩
    · rw [links] at linked
      have charged := sound.charged k o' linked
      rw [charges, Function.update_of_ne (old k o' charged), charged]
    · rw [charges, Function.update_apply] at charged
      split at charged
      · rename_i new
        cases charged
        obtain ⟨ro', owes', follows⟩ := owner o ro owes
        exact ⟨r, ro', by rw [book, Table.find_push, if_pos new], fee, owes',
          follows.tenantId.trans tenant, fun _ => .inl draft⟩
      · obtain ⟨rk, rk', ro', found, found', -, fee', owes', tenant', unissued⟩ :=
          before k o' charged
        rw [book, Table.find_push_of_some found r] at found'
        cases found'
        exact ⟨rk, ro', by rw [book, Table.find_push_of_some found r], fee', owes', tenant',
          by rw [links]; exact unissued⟩
  | linked k o book charges charged alone links =>
    refine ⟨fun k1 k2 o' h1 h2 => ?_, fun k1 o' linked => ?_, fun k1 o' charged' => ?_⟩
    · rw [links, Function.update_apply] at h1 h2
      split at h1 <;> split at h2
      · rename_i same1 same2
        rw [same1, same2]
      · rename_i same1 _
        cases h1
        rw [same1, alone k2 h2]
      · rename_i _ same2
        cases h2
        rw [same2, alone k1 h1]
      · exact sound.unique k1 k2 o' h1 h2
    · rw [links, Function.update_apply] at linked
      rw [charges]
      split at linked
      · rename_i same
        cases linked
        rw [same, charged]
      · exact sound.charged k1 o' linked
    · rw [charges] at charged'
      obtain ⟨rk, rk', ro', found, found', -, fee', owes', tenant', unissued⟩ :=
        before k1 o' charged'
      rw [book, found] at found'
      cases found'
      refine ⟨rk, ro', by rw [book, found], fee', owes', tenant', fun unlinked => ?_⟩
      rw [links, Function.update_apply] at unlinked
      split at unlinked
      · cases unlinked
      · exact unissued unlinked

end

/-! ### Requests under way -/

def LateFeeRequest.Sound (reg : Registry) (d : LateFeeDb) : LateFeeRequest → Prop
  | .price args => ∃ ro, d.book.find args.invoiceId = some ro ∧ ro.Visible reg args
  | .create args fee =>
    ∃ ro, d.Owes args.invoiceId ro ∧ ro.Visible reg args ∧ fee.contractId = ro.contractId
  | .link args feeId => d.chargedOn feeId = some args.invoiceId ∧
    ∃ rk, d.book.find feeId = some rk ∧ rk.Visible reg args
  | .issueRead _ feeId => d.lateFeeFor feeId ≠ none
  | .issue req => ∃ args existing, (req = .issueInHolded args existing ∨
      req = .holdedCall args existing ∨ ∃ doc, req = .issue args existing doc) ∧
    existing.rectifiesInvoiceId = none ∧ d.lateFeeFor args.invoiceId ≠ none
  | .cancelReceipt args =>
    ∃ r, d.book.find args.invoiceId = some r ∧ r.kind = .depositReceipt
  | .credit args original | .revert args original => original.status.payable = true ∧
    ∃ ro, d.book.find args.invoiceId = some ro ∧ ro.tenantId = args.tenantId
  | .cleanUp args => ∃ ro, d.book.find args.invoiceId = some ro ∧ ro.tenantId = args.tenantId
  | .overdue ids =>
    ∀ id ∈ ids, ∃ r, d.book.find id = some r ∧ r.kind = .invoice ∧ ¬r.unissued
  | _ => True

def LateFeeRequest.Linking (k : InvoiceId) : LateFeeRequest → Prop
  | .link _ feeId => feeId = k
  | _ => False

/-- The request has annulled the invoice, and will look for its fee. -/
def LateFeeRequest.Annulling (o : InvoiceId) : LateFeeRequest → Prop
  | .credit args _ | .revert args _ | .cleanUp args => args.invoiceId = o
  | _ => False

def LateFeeRequest.Drops (reg : Registry) (k : InvoiceId) (rk : LateFeeRecord) :
    LateFeeRequest → Prop
  | .cancelRead args => args.invoiceId = k ∧ rk.Visible reg args
  | .cancelDraft args => args.invoiceId = k ∧ rk.tenantId = args.tenantId
  | _ => False

/-- A draft of a fee that is not linked, or whose invoice is annulled, is left to a request. -/
def LateFeesCovered (reg : Registry) (s : State LateFeeDb LateFeeRequest) : Prop :=
  ∀ k o rk, s.db.chargedOn k = some o → s.db.book.find k = some rk → rk.draft = true →
    (s.db.lateFeeFor k = none → ∃ r ∈ s.running, r.Linking k ∨ r.Drops reg k rk) ∧
    ∀ ro, s.db.lateFeeFor k = some o → s.db.book.find o = some ro → ro.rectified = true →
      ∃ r ∈ s.running, r.Annulling o ∨ r.Drops reg k rk

section

variable {reg : Registry} {d d' : LateFeeDb}

theorem LateFeeRecord.unissued_of_follows {r r' : LateFeeRecord} (follows : r.Follows r')
    (kind : r.kind = .invoice) (issued : ¬r.unissued) : ¬r'.unissued := by
  rintro (draft | cancelled)
  · exact issued (.inl (follows.draft draft))
  · rcases follows.cancelled cancelled with unissued | receipt
    · exact issued unissued
    · rw [kind] at receipt
      cases receipt

theorem LateFeeRequest.Sound.commit {r : LateFeeRequest} (h : r.Sound reg d)
    (sound : LateFeesSound d) (c : LateFeeCommit d d') : r.Sound reg d' := by
  have visible : ∀ {id : InvoiceId} {args : InvoiceArgs},
      (∃ r, d.book.find id = some r ∧ r.Visible reg args) →
      ∃ r, d'.book.find id = some r ∧ r.Visible reg args := by
    rintro id args ⟨r, found, sees⟩
    obtain ⟨r', found', follows⟩ := c.rows found
    exact ⟨r', found', follows.visible.mpr sees⟩
  have tenant : ∀ {id : InvoiceId} {tenantId : TenantId},
      (∃ r, d.book.find id = some r ∧ r.tenantId = tenantId) →
      ∃ r, d'.book.find id = some r ∧ r.tenantId = tenantId := by
    rintro id tenantId ⟨r, found, same⟩
    obtain ⟨r', found', follows⟩ := c.rows found
    exact ⟨r', found', follows.tenantId.trans same⟩
  cases r with
  | price args => exact visible h
  | create args fee =>
    obtain ⟨ro, owes, sees, contract⟩ := h
    obtain ⟨ro', owes', follows⟩ := c.owes sound owes
    exact ⟨ro', owes', follows.visible.mpr sees, contract.trans follows.contractId.symm⟩
  | link args feeId => exact ⟨c.charged_mono sound h.1, visible h.2⟩
  | issueRead tenantId feeId => exact c.linked_mono h
  | issue req =>
    obtain ⟨args, existing, shape, rectifies, linked⟩ := h
    exact ⟨args, existing, shape, rectifies, c.linked_mono linked⟩
  | cancelReceipt args =>
    obtain ⟨r, found, kind⟩ := h
    obtain ⟨r', found', follows⟩ := c.rows found
    exact ⟨r', found', follows.kind.trans kind⟩
  | credit args original => exact ⟨h.1, tenant h.2⟩
  | revert args original => exact ⟨h.1, tenant h.2⟩
  | cleanUp args => exact tenant h
  | overdue ids =>
    intro id mem
    obtain ⟨r, found, kind, issued⟩ := h id mem
    obtain ⟨r', found', follows⟩ := c.rows found
    exact ⟨r', found', follows.kind.trans kind,
      LateFeeRecord.unissued_of_follows follows kind issued⟩
  | charge args => trivial
  | cancelRead args => trivial
  | cancelDraft args => trivial
  | checkIssuer args => trivial
  | annul args => trivial

/-- The next step of a request: what it does to the invoices, what it hands over to what it does
next, and that it links no fee to an annulled invoice. -/
structure LateFeeMove (reg : Registry) (d : LateFeeDb) (r : LateFeeRequest) (d' : LateFeeDb)
    (rest : Option LateFeeRequest) : Prop where
  commit : LateFeeCommit d d'
  next : ∀ r', rest = some r' → r'.Sound reg d'
  linking : ∀ k, r.Linking k → d'.lateFeeFor k = none → ∃ r', rest = some r' ∧
    ∀ rk, d'.book.find k = some rk → r'.Linking k ∨ r'.Drops reg k rk
  annulling : ∀ k o rk ro, r.Annulling o → d'.lateFeeFor k = some o →
    d'.book.find k = some rk → rk.IsFee → rk.draft = true → d'.book.find o = some ro →
    ro.rectified = true → ∃ r', rest = some r' ∧ (r'.Annulling o ∨ r'.Drops reg k rk)
  drops : ∀ k rk, r.Drops reg k rk → d'.book.find k = some rk → rk.IsFee → rk.draft = true →
    ∃ r', rest = some r' ∧ r'.Drops reg k rk
  created : ∀ k o, d.chargedOn k = none → d'.chargedOn k = some o →
    ∃ r', rest = some r' ∧ r'.Linking k
  linked : ∀ k o ro, d.lateFeeFor k = none → d'.lateFeeFor k = some o →
    d.book.find o = some ro → ro.rectified = false
  rectified : ∀ o ro', d'.book.find o = some ro' → ro'.rectified = true →
    (∃ ro, d.book.find o = some ro ∧ ro.rectified = true) ∨ ∃ r', rest = some r' ∧ r'.Annulling o

theorem LateFeesCovered.move {running : List LateFeeRequest} {i : ℕ} {r : LateFeeRequest}
    {rest : Option LateFeeRequest} (covered : LateFeesCovered reg ⟨d, running⟩)
    (sound : LateFeesSound d) (found : running[i]? = some r)
    (move : LateFeeMove reg d r d' rest) : LateFeesCovered reg ⟨d', resume running i rest⟩ := by
  have sound' := move.commit.sound sound
  have self : ∀ {r'}, rest = some r' → r' ∈ resume running i rest := by
    rintro r' rfl
    exact mem_resume_self found r'
  intro k o rk' charged' foundFee' draft'
  have fee : rk'.IsFee := by
    obtain ⟨rk, _, found', fee, -⟩ := sound'.fee k o charged'
    rw [foundFee'] at found'
    cases found'
    exact fee
  -- A fee that was there before was charged on the same invoice, and was a draft.
  have before : ∀ o', d.chargedOn k = some o' → o' = o ∧ ∃ rk, d.book.find k = some rk ∧
      rk.draft = true ∧ ∀ r0 : LateFeeRequest, r0.Drops reg k rk → r0.Drops reg k rk' := by
    intro o' charged
    have same := move.commit.charged_mono sound charged
    rw [charged'] at same
    obtain ⟨rk, rk1, _, foundFee, found1, follows, -⟩ := move.commit.fee sound charged
    rw [foundFee'] at found1
    cases found1
    refine ⟨(Option.some.inj same).symm, rk, foundFee, follows.draft draft', fun r0 h => ?_⟩
    cases r0 <;> first | exact h | skip
    · exact ⟨h.1, follows.visible.mpr h.2⟩
    · exact ⟨h.1, follows.tenantId.trans h.2⟩
  have hand : ∀ r0 : LateFeeRequest, r0 = r → r0.Drops reg k rk' →
      ∃ r', rest = some r' ∧ r'.Drops reg k rk' := by
    rintro r0 rfl h
    exact move.drops k rk' h foundFee' fee draft'
  refine ⟨fun unlinked' => ?_, fun ro' linked' foundOwner' annulled' => ?_⟩
  · cases charged : d.chargedOn k with
    | none =>
      obtain ⟨r', next, links⟩ := move.created k o charged charged'
      exact ⟨r', self next, .inl links⟩
    | some o' =>
      obtain ⟨rfl, rk, foundFee, draft, drops⟩ := before o' charged
      have unlinked : d.lateFeeFor k = none := by
        by_contra linked
        exact move.commit.linked_mono linked unlinked'
      obtain ⟨r0, mem, does⟩ := (covered k o' rk charged foundFee draft).1 unlinked
      refine exists_resume found ⟨r0, mem, does.imp id (drops r0)⟩ fun does => ?_
      rcases does with links | h
      · obtain ⟨r', next, does⟩ := move.linking k links unlinked'
        exact ⟨r', next, does rk' foundFee'⟩
      · obtain ⟨r', next, h'⟩ := hand r rfl h
        exact ⟨r', next, .inr h'⟩
  · rcases move.rectified o ro' foundOwner' annulled' with ⟨ro, owes, annulled⟩ | ⟨r', next, annuls⟩
    · cases linked : d.lateFeeFor k with
      | none =>
        rw [move.linked k o ro linked linked' owes] at annulled
        cases annulled
      | some o' =>
        have charged := sound.charged k o' linked
        obtain ⟨rfl, rk, foundFee, draft, drops⟩ := before o' charged
        obtain ⟨r0, mem, does⟩ :=
          (covered k o' rk charged foundFee draft).2 ro linked owes annulled
        refine exists_resume found ⟨r0, mem, does.imp id (drops r0)⟩ fun does => ?_
        rcases does with annuls | h
        · exact move.annulling k o' rk' ro' annuls linked' foundFee' fee draft' foundOwner' annulled'
        · obtain ⟨r', next, h'⟩ := hand r rfl h
          exact ⟨r', next, .inr h'⟩
    · exact ⟨r', self next, .inl annuls⟩

end

end StorageOS
