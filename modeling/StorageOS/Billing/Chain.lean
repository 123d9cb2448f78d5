import StorageOS.Lib.Linked
import StorageOS.Billing.FiscalSteps

/-! The Veri*Factu chain of an issuer. The registered records of a tenant and owner are an
append-only sequence: an issue appends to the one of its issuer, and nothing else touches the
fields that the links read. -/

namespace StorageOS

open Transition

/-- A registered record follows the one before it: the next number, and its hash and invoice. -/
structure ChainLink (previous : Option (InvoiceId × FiscalRecord)) (x : InvoiceId × FiscalRecord) :
    Prop where
  seq : x.2.chainSeq = some ((previous.bind fun p => p.2.chainSeq).getD 0 + 1)
  hashed : x.2.hash.isSome
  previousHash : x.2.previousHash = previous.bind fun p => p.2.hash
  previousInvoice : x.2.previousInvoiceId = previous.map Prod.fst

/-- The registered records of every issuer, in some order, are linked. -/
def FiscalBook.Chained (book : FiscalBook) : Prop :=
  ∀ tenantId ownerId, ∃ order : List (InvoiceId × FiscalRecord),
    order.Perm (book.registered tenantId ownerId) ∧ Linked ChainLink order

variable {order : List (InvoiceId × FiscalRecord)} {book : FiscalBook} {id : InvoiceId}
  {s : BillingState} {reg : Registry} {sha : Sha256}

theorem chain_seq (linked : Linked ChainLink order) (i : ℕ) (hi : i < order.length) :
    order[i].2.chainSeq = some (i + 1) := by
  induction i with
  | zero => exact (linked.getElem 0 hi).seq
  | succ i ih =>
    have link := (linked.getElem (i + 1) hi).seq
    rw [if_neg (by omega), Nat.add_sub_cancel, List.getElem?_eq_getElem (by omega)] at link
    simpa [ih (by omega)] using link

theorem chainHead_eq {tenantId : TenantId} {ownerId : Option OwnerId}
    (perm : order.Perm (book.registered tenantId ownerId)) (linked : Linked ChainLink order) :
    book.chainHead tenantId ownerId = order.getLast? := by
  unfold FiscalBook.chainHead
  cases head : (book.registered tenantId ownerId).argmax fun p => p.2.chainSeq.getD 0 with
  | none =>
    rw [List.argmax_eq_none] at head
    rw [head, List.perm_nil] at perm
    simp [perm]
  | some h =>
    obtain ⟨i, hi, rfl⟩ := List.mem_iff_getElem.mp (perm.mem_iff.mpr (List.argmax_mem head))
    have bound : order.length - 1 < order.length := by omega
    have last : order[order.length - 1] ∈ book.registered tenantId ownerId :=
      perm.mem_iff.mp (List.getElem_mem _)
    have highest := List.le_of_mem_argmax last head
    simp only [chain_seq linked, Option.getD_some] at highest
    rw [List.getLast?_eq_getElem?, List.getElem?_eq_getElem (by omega)]
    congr 2
    omega

/-! ### Steps -/

def FiscalRecord.chainFields (r : FiscalRecord) :=
  (r.tenantId, r.ownerId, r.chainSeq, r.hash, r.previousHash, r.previousInvoiceId)

theorem chained_modify {f : FiscalRecord → FiscalRecord}
    (keeps : ∀ r, (f r).chainFields = r.chainFields) (chained : book.Chained) :
    FiscalBook.Chained (book.modify id f) := by
  intro tenantId ownerId
  simp only [FiscalRecord.chainFields, Prod.mk.injEq] at keeps
  obtain ⟨order, perm, linked⟩ := chained tenantId ownerId
  refine ⟨order.map fun q => if q.1 = id then (q.1, f q.2) else q, ?_, linked.map ?_⟩
  · rw [FiscalBook.registered, Table.filter_modify_map fun r => by simp [keeps r]]
    exact perm.map _
  · intro previous x link
    have seq : ∀ q : InvoiceId × FiscalRecord,
        (if q.1 = id then (q.1, f q.2) else q).2.chainSeq = q.2.chainSeq := by
      intro q
      split <;> simp [keeps]
    have hash : ∀ q : InvoiceId × FiscalRecord,
        (if q.1 = id then (q.1, f q.2) else q).2.hash = q.2.hash := by
      intro q
      split <;> simp [keeps]
    refine ⟨?_, ?_, ?_, ?_⟩
    · cases previous <;> simpa [seq] using link.seq
    · simpa [hash] using link.hashed
    · have previousHash := link.previousHash
      cases previous <;> split <;> simpa [hash, keeps] using previousHash
    · have previousInvoice := link.previousInvoice
      cases previous <;> split <;> simp only [keeps, previousInvoice, Option.map] <;>
        first | rfl | (split <;> rfl)

structure FollowsHead (book : FiscalBook) (tenantId : TenantId) (ownerId : Option OwnerId)
    (stamp : Stamp) : Prop where
  seq : stamp.chainSeq = ((book.chainHead tenantId ownerId).bind fun p => p.2.chainSeq).getD 0 + 1
  previousHash : stamp.previousHash = (book.chainHead tenantId ownerId).bind fun p => p.2.hash
  previousInvoice : stamp.previousInvoiceId = (book.chainHead tenantId ownerId).map Prod.fst

theorem chained_stamp {r : FiscalRecord} {stamp : Stamp} (found : book.find id = some r)
    (unregistered : r.chainSeq = none) (follows : FollowsHead book r.tenantId r.ownerId stamp)
    (chained : book.Chained) :
    FiscalBook.Chained (book.modify id (·.stamp stamp)) := by
  intro tenantId ownerId
  obtain ⟨order, perm, linked⟩ := chained tenantId ownerId
  by_cases issuer : r.tenantId = tenantId ∧ r.ownerId = ownerId
  · obtain ⟨rfl, rfl⟩ := issuer
    refine ⟨order ++ [(id, r.stamp stamp)], ?_, linked.snoc ?_⟩
    · have joins := Table.filter_modify_perm found (f := fun x => x.stamp stamp)
        (p := fun p => p.2.tenantId = r.tenantId && p.2.ownerId = r.ownerId && p.2.chainSeq.isSome)
        (by simp [unregistered]) (by simp [FiscalRecord.stamp])
      exact (perm.append_right _).trans joins.symm
    · rw [← chainHead_eq perm linked]
      exact ⟨congrArg some follows.seq, rfl, follows.previousHash, follows.previousInvoice⟩
  · refine ⟨order, ?_, linked⟩
    rwa [FiscalBook.registered, Table.filter_modify_same]
    intro x hx
    rw [found, Option.some.injEq] at hx
    subst hx
    rw [not_and] at issuer
    by_cases tenant : r.tenantId = tenantId
    · simp [FiscalRecord.stamp, tenant, issuer tenant]
    · simp [FiscalRecord.stamp, tenant]

structure Unregistered (s : BillingState) : Prop where
  idle : ∀ r, s.requests r = none
  unregistered : ∀ id a, s.db.accounts.find id = some a → a.invoice.chainSeq = none

/-- The invariant: requests agree with the rows they read, drafts are not registered, and every
issuer's records are chained. -/
structure ChainInvariant (s : BillingState) : Prop where
  coherent : s.Coherent
  drafts : ∀ id r, s.db.fiscal.find id = some r → r.draft = true → r.chainSeq = none
  chained : s.db.fiscal.Chained

theorem Unregistered.invariant (start : Unregistered s) : ChainInvariant s := by
  have none : ∀ id r, s.db.fiscal.find id = some r → r.chainSeq = none := by
    intro id r h
    rw [Db.fiscal, Table.find_view, Option.map_eq_some_iff] at h
    obtain ⟨a, found, rfl⟩ := h
    exact start.unregistered id a found
  refine ⟨fun r req h => by simp [start.idle r] at h, fun id r h _ => none id r h, ?_⟩
  intro tenantId ownerId
  refine ⟨[], ?_, .nil⟩
  rw [List.nil_perm, FiscalBook.registered, List.filter_eq_nil_iff]
  rintro ⟨id, r⟩ mem
  simp [none id r (Table.find_eq_some.mpr mem)]

theorem chainInvariant_commit {clock : Clock} {r : ℕ} {req : Request} {db' : Db}
    (inv : ChainInvariant s) (found : s.requests r = some req)
    (commit : FiscalCommit reg sha clock s.db db' req) :
    (∀ id r, db'.fiscal.find id = some r → r.draft = true → r.chainSeq = none) ∧
      db'.fiscal.Chained := by
  have coherent := inv.coherent r req found
  have drafts : ∀ {id : InvoiceId} {f : FiscalRecord → FiscalRecord},
      (∀ x, (f x).draft = true → x.draft = true ∧ (f x).chainSeq = x.chainSeq) →
      ∀ j x, (s.db.fiscal.modify id f).find j = some x → x.draft = true → x.chainSeq = none := by
    intro id f hf j x hx draft
    rcases Table.find_modify_cases hx with ⟨_, hx⟩ | ⟨rfl, y, hy, rfl⟩
    · exact inv.drafts j x hx draft
    · obtain ⟨hdraft, hseq⟩ := hf y draft
      rw [hseq, inv.drafts j y hy hdraft]
  cases commit with
  | same book => exact ⟨by rw [book]; exact inv.drafts, by rw [book]; exact inv.chained⟩
  | seriesEdited book => exact ⟨by rw [book]; exact inv.drafts, by rw [book]; exact inv.chained⟩
  | dated _ _ book =>
    rw [book]
    exact ⟨drafts fun _ h => ⟨h, rfl⟩, chained_modify (fun _ => rfl) inv.chained⟩
  | numbered _ _ book =>
    rw [book]
    exact ⟨drafts fun _ h => absurd h Bool.false_ne_true, chained_modify (fun _ => rfl) inv.chained⟩
  | edited keep lines _ book =>
    rw [book]
    refine ⟨drafts fun x h => ⟨(Bool.and_eq_true_iff.mp h).1, ?_⟩,
      chained_modify (fun x => ?_) inv.chained⟩ <;> cases lines <;> rfl
  | @stamped args existing after before draft reserved book =>
    rw [book]
    refine ⟨drafts fun _ h => absurd h Bool.false_ne_true, ?_⟩
    obtain ⟨x, hx, _, hdraft⟩ := draft
    have header : x.header =
        ⟨args.tenantId, existing.ownerId, existing.seriesId, existing.invoiceType⟩ := by
      have := coherent
      rw [Request.Coherent, FiscalBook.Keeps, Table.find_view, hx] at this
      exact Option.some.inj this
    refine chained_stamp hx (inv.drafts _ x hx hdraft) ?_ inv.chained
    rw [show x.tenantId = args.tenantId from congrArg Header.tenantId header,
      show x.ownerId = existing.ownerId from congrArg Header.ownerId header]
    exact ⟨rfl, rfl, rfl⟩

theorem chainInvariant_step {s s' : BillingState} {a : BillingAction} (inv : ChainInvariant s)
    (h : billingStep reg sha s a = some s') :
    ChainInvariant s' := by
  have coherent := coherent_step inv.coherent h
  rcases billingStep_db h with same | ⟨r, clock, req, next, rfl, found, committed⟩
  · exact ⟨coherent, by rw [same]; exact inv.drafts, by rw [same]; exact inv.chained⟩
  · obtain ⟨drafts, chained⟩ := chainInvariant_commit inv found (commitRequest_commit committed)
    exact ⟨coherent, drafts, chained⟩

/-- After every run of issue and edit requests, whichever of their transactions commit and in
whatever order, the registered records of each issuer are numbered from 1 without a gap or a
repetition, the first has no previous hash, and every other has the hash and the invoice of the
one before it. -/
theorem registered_chain {reg : Registry} {sha : Sha256} {s t : BillingState}
    (start : Unregistered s) (run : Reaches (billingStep reg sha) s t) (tenantId : TenantId)
    (ownerId : Option OwnerId) :
    ∃ order : List (InvoiceId × FiscalRecord),
      order.Perm (t.db.fiscal.registered tenantId ownerId) ∧
      ∀ i (hi : i < order.length), order[i].2.chainSeq = some (i + 1) ∧ order[i].2.hash.isSome ∧
        order[i].2.previousHash = (if i = 0 then none else order[i - 1].2.hash) ∧
        order[i].2.previousInvoiceId = if i = 0 then none else some order[i - 1].1 := by
  have inv := run.invariant start.invariant fun inv _ taken => chainInvariant_step inv taken
  obtain ⟨order, perm, linked⟩ := inv.chained tenantId ownerId
  refine ⟨order, perm, fun i hi => ?_⟩
  have link := linked.getElem i hi
  have previous : (if i = 0 then none else order[i - 1]?) =
      if i = 0 then none else some order[i - 1] := by
    rw [List.getElem?_eq_getElem (by omega)]
  rw [previous] at link
  refine ⟨chain_seq linked i hi, link.hashed, link.previousHash.trans ?_,
    link.previousInvoice.trans ?_⟩
  · split <;> rfl
  · split <;> rfl

theorem twoDrafts_unregistered : Unregistered twoDrafts where
  idle _ := rfl
  unregistered id a found := by
    rw [twoDrafts_draft found]
    rfl

/-- Two drafts are issued, and an attempt between them fails. -/
theorem registered_chain_two_drafts :
    ∃ (t : BillingState) (order : List (InvoiceId × FiscalRecord)),
      order.Perm (t.db.fiscal.registered 1 none) ∧ order.length = 2 ∧
      ∀ i (hi : i < order.length), order[i].2.chainSeq = some (i + 1) ∧ order[i].2.hash.isSome ∧
        order[i].2.previousHash = (if i = 0 then none else order[i - 1].2.hash) ∧
        order[i].2.previousInvoiceId = if i = 0 then none else some order[i - 1].1 := by
  obtain ⟨t, run, two⟩ := Run.exists_of_exec (billingStep oneTenant .bytes)
    (fun _ _ => True) twoDrafts
    [.issue 0 (issueOf 1) .app, .issue 1 (issueOf 0) .app, .commit 0 (noon 20000),
      .fail 1, .issue 1 (issueOf 0) .app, .commit 1 (noon 20001)]
    (fun t : BillingState => (t.db.fiscal.registered 1 none).length = 2) (by decide +kernel)
  obtain ⟨order, perm, linked⟩ := registered_chain twoDrafts_unregistered run 1 none
  exact ⟨t, order, perm, perm.length_eq.trans (by simpa using two), linked⟩

end StorageOS
