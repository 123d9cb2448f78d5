import StorageOS.Billing.FiscalSteps

/-! Stored hashes against stored rows. An issue hashes the totals it read before its transaction
and an edit writes lines without looking at the status again, so a stored hash agrees with its row
exactly as long as every commit finds the totals it counts on. -/

namespace StorageOS

open Transition

/-- `verifyHash` on the record of an invoice. -/
def FiscalRecord.verifies (reg : Registry) (sha : Sha256) (r : FiscalRecord) : Bool :=
  match r.hash, r.issueDate, r.aeatRecordTimestamp with
  | some hash, some issueDate, some recordTimestamp =>
    hash ≠ "" && recordTimestamp ≠ "" &&
      computeAltaHash sha {
        emitterTaxId := emitterTaxId reg r.tenantId r.ownerId
        invoiceNumber := r.invoiceNumber
        issueDate := formatSpanishDate issueDate
        invoiceType := r.invoiceType.name
        cuotaTotal := r.taxAmount
        importeTotal := r.total
        previousHash := r.previousHash
        recordTimestamp } = hash.toUpper
  | _, _, _ => false

theorem verifyHash_eq (reg : Registry) (sha : Sha256) (a : Account) :
    verifyHash sha (emitterTaxId reg a.invoice.tenantId a.invoice.ownerId) a.invoice =
      a.fiscal.verifies reg sha := rfl

/-- Every invoice with a hash passes the check of its hash against its row. -/
def HashesVerify (reg : Registry) (sha : Sha256) (db : Db) : Prop :=
  ∀ id a, db.accounts.find id = some a → a.invoice.hash.isSome →
    verifyHash sha (emitterTaxId reg a.invoice.tenantId a.invoice.ownerId) a.invoice = true

/-- Every invoice with a hash keeps it, with its total and its tax. -/
def HashedTotalsKept (db db' : Db) : Prop :=
  ∀ id a, db.accounts.find id = some a → a.invoice.hash.isSome →
    ∃ a', db'.accounts.find id = some a' ∧ a'.invoice.hash = a.invoice.hash ∧
      a'.invoice.taxAmount = a.invoice.taxAmount ∧ a'.invoice.total = a.invoice.total

/-- A commit finds the totals it counts on: an issue those it read, and an edit that brings lines
an invoice without a hash, or the same totals. -/
def totalsAgree (s : BillingState) : BillingAction → Bool
  | .commit r _ =>
    match s.requests r with
    | some (.issue args existing none) =>
      (s.db.findAccount args.tenantId args.invoiceId).all fun a =>
        a.invoice.status ≠ .draft ||
          (a.invoice.taxAmount = existing.taxAmount && a.invoice.total = existing.total)
    | some (.update args _) =>
      (s.db.accounts.find args.invoiceId).all fun a =>
        a.invoice.hash = none || args.input.items.all fun items =>
          match computeTotals items with
          | .ok totals =>
            totals.taxAmount = a.invoice.taxAmount && totals.total = a.invoice.total
          | .error _ => true
    | _ => true
  | _ => true

/-- No request is under way, drafts carry no hash, and the hashes there are verify. -/
structure BillingStart (reg : Registry) (sha : Sha256) (s : BillingState) : Prop where
  idle : ∀ r, s.requests r = none
  drafts : ∀ id a, s.db.accounts.find id = some a → a.invoice.status = .draft →
    a.invoice.hash = none
  verify : HashesVerify reg sha s.db

/-- The invariant: requests agree with the rows they read, drafts carry no hash, and every hash
verifies. -/
structure Hashed (reg : Registry) (sha : Sha256) (s : BillingState) : Prop where
  coherent : s.Coherent
  drafts : ∀ id r, s.db.fiscal.find id = some r → r.draft = true → r.hash = none
  verify : ∀ id r, s.db.fiscal.find id = some r → r.hash.isSome → r.verifies reg sha = true

variable {id : InvoiceId} {r : FiscalRecord} {s : BillingState} {req : Request}

theorem Db.find_of_fiscal {db : Db} (h : db.fiscal.find id = some r) :
    ∃ a, db.accounts.find id = some a ∧ a.fiscal = r := by
  rwa [Db.fiscal, Table.find_view, Option.map_eq_some_iff] at h

variable {reg : Registry} {sha : Sha256}

theorem BillingStart.hashed (start : BillingStart reg sha s) : Hashed reg sha s where
  coherent r req h := by simp [start.idle r] at h
  drafts id r h draft := by
    obtain ⟨a, found, rfl⟩ := Db.find_of_fiscal h
    exact start.drafts id a found (by simpa [Account.fiscal] using draft)
  verify id r h hashed := by
    obtain ⟨a, found, rfl⟩ := Db.find_of_fiscal h
    exact start.verify id a found hashed

theorem Hashed.hashesVerify (inv : Hashed reg sha s) : HashesVerify reg sha s.db := fun id _ found hashed =>
  inv.verify id _ (Db.fiscal_find found) hashed

section

variable {reg : Registry} {sha : Sha256} {clock : Clock}

theorem verifies_stamp (reg : Registry) (sha : Sha256) (clock : Clock) (book : FiscalBook)
    (number : String) (sequence : ℤ) (issueDate : Date) (r : FiscalRecord) :
    (r.stamp (computeChainedHash sha clock book r.tenantId r.ownerId
      (emitterTaxId reg r.tenantId r.ownerId) number sequence issueDate r.invoiceType r.taxAmount
      r.total)).verifies reg sha = true := by
  simp [FiscalRecord.verifies, FiscalRecord.stamp, computeChainedHash, clock.recorded,
    computeAltaHash_ne_empty]

theorem updatedItems_ok {input : UpdateInvoiceInput} {totals : Totals} {rows : List InvoiceItem}
    (h : updatedItems input = .ok (some (totals, rows))) :
    ∃ items, input.items = some items ∧ computeTotals items = .ok totals := by
  unfold updatedItems at h
  split at h
  · cases h
  · rename_i items given
    obtain ⟨totals', computed, h⟩ := Outcome.bind_ok h
    obtain ⟨rows', _, h⟩ := Outcome.bind_ok h
    cases h
    exact ⟨items, given, computed⟩

/-- What one admitted commit does to a record: a hashed one keeps its hash and totals, and one that
comes to carry a hash passes the check. -/
structure RecordStep (reg : Registry) (sha : Sha256) (r r' : FiscalRecord) : Prop where
  draft : r'.draft = true → r.draft = true ∧ r'.hash = r.hash
  kept : r.hash.isSome → r'.hash = r.hash ∧ r'.taxAmount = r.taxAmount ∧ r'.total = r.total
  verify : (r.hash.isSome → r.verifies reg sha = true) → r'.hash.isSome →
    r'.verifies reg sha = true

theorem RecordStep.refl (r : FiscalRecord) : RecordStep reg sha r r :=
  ⟨fun h => ⟨h, rfl⟩, fun _ => ⟨rfl, rfl, rfl⟩, fun h => h⟩

theorem RecordStep.unhashed {r r' : FiscalRecord} (before : r.hash = none)
    (after : r'.hash = none) (draft : r'.draft = true → r.draft = true) :
    RecordStep reg sha r r' where
  draft h := ⟨draft h, by rw [before, after]⟩
  kept h := by simp [before] at h
  verify _ h := by simp [after] at h

theorem recordStep_modify {book : FiscalBook} {f : FiscalRecord → FiscalRecord}
    (h : ∀ r, book.find id = some r → RecordStep reg sha r (f r)) (j : InvoiceId) (found : book.find j = some r) :
    ∃ r', (book.modify id f).find j = some r' ∧ RecordStep reg sha r r' := by
  exact Table.exists_find_modify found (h r) (.refl r)

/-- Every admitted commit moves every record by a `RecordStep`. -/
theorem commit_recordStep {r : ℕ} {db' : Db} (inv : Hashed reg sha s) (found : s.requests r = some req)
    (agree : totalsAgree s (.commit r clock) = true) (commit : FiscalCommit reg sha clock s.db db' req) (id : InvoiceId)
    {x : FiscalRecord} (hx : s.db.fiscal.find id = some x) :
    ∃ x', db'.fiscal.find id = some x' ∧ RecordStep reg sha x x' := by
  have coherent := inv.coherent r req found
  have unhashed : ∀ {tenantId invoiceId x}, s.db.fiscal.IsDraft tenantId invoiceId →
      s.db.fiscal.find invoiceId = some x → x.draft = true ∧ x.hash = none := by
    rintro tenantId invoiceId x ⟨y, hy, _, draft⟩ hx
    rw [hy, Option.some.injEq] at hx
    subst hx
    exact ⟨draft, inv.drafts _ _ hy draft⟩
  cases commit with
  | same book => exact ⟨x, by rw [book, hx], .refl x⟩
  | seriesEdited book => exact ⟨x, by rw [book, hx], .refl x⟩
  | dated issueDate draft book =>
    rw [book]
    refine recordStep_modify (fun y hy => ?_) id hx
    obtain ⟨_, nohash⟩ := unhashed draft hy
    exact .unhashed nohash nohash fun h => h
  | numbered issueDate draft book =>
    rw [book]
    refine recordStep_modify (fun y hy => ?_) id hx
    obtain ⟨hdraft, nohash⟩ := unhashed draft hy
    exact .unhashed nohash nohash fun _ => hdraft
  | @stamped args existing after before draft reserved book =>
    rw [book]
    refine recordStep_modify (fun y hy => ?_) id hx
    obtain ⟨hdraft, nohash⟩ := unhashed draft hy
    obtain ⟨a, ha, rfl⟩ := Db.find_of_fiscal hy
    have header : a.fiscal.header =
        ⟨args.tenantId, existing.ownerId, existing.seriesId, existing.invoiceType⟩ := by
      have := coherent
      rw [Request.Coherent, FiscalBook.Keeps, Table.find_view, hy] at this
      exact Option.some.inj this
    have totals : a.fiscal.taxAmount = existing.taxAmount ∧ a.fiscal.total = existing.total := by
      have htenant : a.invoice.tenantId = args.tenantId := congrArg Header.tenantId header
      have hstatus : a.invoice.status = .draft := by simpa [Account.fiscal] using hdraft
      show a.invoice.taxAmount = _ ∧ a.invoice.total = _
      simpa [totalsAgree, found, Db.findAccount, ha, htenant, hstatus] using agree
    obtain ⟨htax, htotal⟩ := totals
    refine ⟨fun h => absurd h Bool.false_ne_true, fun h => ?_, fun _ _ => ?_⟩
    · simp [nohash] at h
    have := verifies_stamp reg sha clock s.db.fiscal
      (formatInvoiceNumber after (after.nextNumber - 1) (existing.issueDate.getD clock.today))
      (after.nextNumber - 1) (existing.issueDate.getD clock.today) a.fiscal
    rwa [show a.fiscal.tenantId = args.tenantId from congrArg Header.tenantId header,
      show a.fiscal.ownerId = existing.ownerId from congrArg Header.ownerId header,
      show a.fiscal.invoiceType = existing.invoiceType from congrArg Header.invoiceType header,
      htax, htotal] at this
  | @edited args existing keep lines computed book =>
    rw [book]
    refine recordStep_modify (fun y hy => ?_) id hx
    have draft : ∀ b : Bool, (b && keep) = true → b = true := by simp
    cases lines with
    | none => exact ⟨fun h => ⟨draft _ h, rfl⟩, fun _ => ⟨rfl, rfl, rfl⟩, fun h => h⟩
    | some lines =>
      obtain ⟨totals, rows⟩ := lines
      obtain ⟨items, given, totalled⟩ := updatedItems_ok computed
      obtain ⟨a, ha, rfl⟩ := Db.find_of_fiscal hy
      cases hash : a.invoice.hash with
      | none => exact .unhashed hash hash (draft _)
      | some text =>
        have : totals.taxAmount = a.invoice.taxAmount ∧ totals.total = a.invoice.total := by
          simpa [totalsAgree, found, ha, hash, given, totalled] using agree
        obtain ⟨htax, htotal⟩ := this
        refine ⟨fun h => ⟨draft _ h, rfl⟩, fun _ => ⟨rfl, htax, htotal⟩, fun h hashed => ?_⟩
        simp only [FiscalRecord.withTotals, htax, htotal]
        exact h hashed

theorem commit_find_none {db db' : Db} (commit : FiscalCommit reg sha clock db db' req) (h : db.fiscal.find id = none) :
    db'.fiscal.find id = none := by
  have header := congrArg (Table.find · id) commit.headers
  simp only [Table.find_view, h, Option.map_none, Option.map_eq_none_iff] at header
  exact header

theorem hashed_step {s s' : BillingState} {a : BillingAction} (inv : Hashed reg sha s)
    (agree : totalsAgree s a = true) (h : billingStep reg sha s a = some s') :
    Hashed reg sha s' ∧ HashedTotalsKept s.db s'.db := by
  have coherent := coherent_step inv.coherent h
  rcases billingStep_db h with same | ⟨r, clock, req, next, rfl, found, committed⟩
  · refine ⟨⟨coherent, by rw [same]; exact inv.drafts, by rw [same]; exact inv.verify⟩, ?_⟩
    intro id a ha _
    exact ⟨a, by rw [same, ha], rfl, rfl, rfl⟩
  · have commit := commitRequest_commit committed
    have step := fun id x hx => commit_recordStep inv found agree commit id (x := x) hx
    -- A record after the commit has a record before it that moved to it.
    have origin : ∀ id x', s'.db.fiscal.find id = some x' →
        ∃ x, s.db.fiscal.find id = some x ∧ RecordStep reg sha x x' := by
      intro id x' hx'
      cases hx : s.db.fiscal.find id with
      | none => rw [commit_find_none commit hx] at hx'; cases hx'
      | some x =>
        obtain ⟨y, hy, moved⟩ := step id x hx
        rw [hx', Option.some.injEq] at hy
        subst hy
        exact ⟨x, rfl, moved⟩
    refine ⟨⟨coherent, fun id x' hx' draft => ?_, fun id x' hx' hashed => ?_⟩, ?_⟩
    · obtain ⟨x, hx, moved⟩ := origin id x' hx'
      obtain ⟨hdraft, hhash⟩ := moved.draft draft
      rw [hhash, inv.drafts id x hx hdraft]
    · obtain ⟨x, hx, moved⟩ := origin id x' hx'
      exact moved.verify (inv.verify id x hx) hashed
    · intro id a ha hashed
      obtain ⟨x', hx', moved⟩ := step id _ (Db.fiscal_find ha)
      obtain ⟨a', ha', rfl⟩ := Db.find_of_fiscal hx'
      exact ⟨a', ha', moved.kept hashed⟩

theorem HashedTotalsKept.trans {db db' db'' : Db} (h : HashedTotalsKept db db')
    (h' : HashedTotalsKept db' db'') : HashedTotalsKept db db'' := by
  intro id a ha hashed
  obtain ⟨a', ha', hash, htax, htotal⟩ := h id a ha hashed
  obtain ⟨a'', ha'', hash', htax', htotal'⟩ := h' id a' ha' (by rw [hash]; exact hashed)
  exact ⟨a'', ha'', hash'.trans hash, htax'.trans htax, htotal'.trans htotal⟩

theorem hashed_run {s t : BillingState}
    (run : Run (billingStep reg sha) (fun s a => totalsAgree s a = true) s t)
    (inv : Hashed reg sha s) : Hashed reg sha t ∧ HashedTotalsKept s.db t.db := by
  refine run.invariant (P := fun t => Hashed reg sha t ∧ HashedTotalsKept s.db t.db)
    ⟨inv, fun id a ha _ => ⟨a, ha, rfl, rfl, rfl⟩⟩ fun {x a y} ⟨hx, kept⟩ agree taken => ?_
  obtain ⟨hy, step⟩ := hashed_step hx agree taken
  exact ⟨hy, kept.trans step⟩

end

/-- In every run of issue and edit requests in which every commit finds the totals it counts on,
every stored hash verifies against its row, and from the moment an invoice has a hash its total
and tax stay the same. -/
theorem stored_hashes_verify {reg : Registry} {sha : Sha256} {s₀ s t : BillingState}
    (start : BillingStart reg sha s₀)
    (first : Run (billingStep reg sha) (fun s a => totalsAgree s a = true) s₀ s)
    (rest : Run (billingStep reg sha) (fun s a => totalsAgree s a = true) s t) :
    HashesVerify reg sha t.db ∧ HashedTotalsKept s.db t.db := by
  obtain ⟨inv, kept⟩ := hashed_run rest (hashed_run first start.hashed).1
  exact ⟨inv.hashesVerify, kept⟩

theorem twoDrafts_start (sha : Sha256) : BillingStart oneTenant sha twoDrafts where
  idle _ := rfl
  drafts id a found _ := by
    rw [twoDrafts_draft found]
    rfl
  verify id a found hashed := by
    rw [twoDrafts_draft found] at hashed
    cases hashed

def oneLine (unitPrice taxRate : ℚ) : UpdateArgs :=
  ⟨1, 0, none, ⟨none, none, none, some [⟨"Trastero", 1, unitPrice, taxRate, none, none⟩]⟩⟩

/-- A draft is edited and then issued: both requests find the totals they count on. -/
theorem stored_hashes_verify_edit_issue :
    ∃ t : BillingState, HashesVerify oneTenant .bytes t.db ∧ HashedTotalsKept twoDrafts.db t.db ∧
      (t.db.accounts.find 0).any (fun a => a.invoice.hash.isSome && a.invoice.total = 24200) =
        true := by
  obtain ⟨t, run, issued⟩ := Run.exists_of_exec (billingStep oneTenant .bytes)
    (fun s a => totalsAgree s a = true) twoDrafts
    [.update 0 (oneLine 200 21), .commit 0 (noon 20000), .issue 0 (issueOf 0) .app,
      .commit 0 (noon 20000)]
    (fun t : BillingState => (t.db.accounts.find 0).any fun a =>
      a.invoice.hash.isSome && a.invoice.total = 24200) (by decide +kernel)
  obtain ⟨verify, kept⟩ := stored_hashes_verify (twoDrafts_start .bytes) (.refl _) run
  exact ⟨t, verify, kept, issued⟩

/-- A record whose total alone changes cannot verify before and after, with an injective digest. -/
theorem verifies_total {total : ℤ} (injective : Function.Injective sha.digest) (before : r.verifies reg sha = true)
    (after : { r with total }.verifies reg sha = true) : toFixed2 r.total = toFixed2 total := by
  simp only [FiscalRecord.verifies] at before after
  split at before
  · rename_i hash issueDate recordTimestamp hhash hdate hstamp
    rw [hhash, hdate, hstamp] at after
    simp only [Bool.and_eq_true, decide_eq_true_eq] at before after
    have texts := computeAltaHash_inj injective (before.2.trans after.2.symm)
    exact altaHashInput_importeTotal texts
  · cases before

theorem commit_total {clock : Clock} {db db' : Db} {x x' : FiscalRecord}
    (commit : FiscalCommit reg sha clock db db' req) (before : db.fiscal.find id = some x)
    (after : db'.fiscal.find id = some x') (changed : x'.total ≠ x.total) :
    x' = { x with draft := x'.draft, taxAmount := x'.taxAmount, total := x'.total } := by
  have same : ∀ {k : InvoiceId} {f : FiscalRecord → FiscalRecord},
      db'.fiscal = db.fiscal.modify k f → (∀ r, (f r).total = r.total) → x'.total = x.total := by
    intro k f book hf
    rw [book, Table.find_modify, before] at after
    split at after <;> cases after
    · exact hf x
    · rfl
  cases commit with
  | same book =>
    rw [book, before, Option.some.injEq] at after
    exact absurd (congrArg FiscalRecord.total after.symm) changed
  | seriesEdited book =>
    rw [book, before, Option.some.injEq] at after
    exact absurd (congrArg FiscalRecord.total after.symm) changed
  | dated _ _ book => exact absurd (same book fun _ => rfl) changed
  | numbered _ _ book => exact absurd (same book fun _ => rfl) changed
  | stamped _ _ book => exact absurd (same book fun _ => rfl) changed
  | edited keep lines computed book =>
    rw [book, Table.find_modify, before] at after
    split at after <;> cases after
    · cases lines <;> rfl
    · exact absurd rfl changed

/-- An edit read a draft, the invoice was issued, and the edit then wrote lines with another total
(200 € at 10.5 % for 100 € at 21 %): the stored hash is the one of the old total. -/
theorem stored_hash_fails : ¬∀ (reg : Registry) (sha : Sha256) (s t : BillingState),
    Function.Injective sha.digest → BillingStart reg sha s →
    Reaches (billingStep reg sha) s t → HashesVerify reg sha t.db := by
  intro always
  -- Up to the commit of the issue every request finds the totals it counts on.
  obtain ⟨s, run, last⟩ := Run.exists_of_exec (billingStep oneTenant .bytes)
    (fun s a => totalsAgree s a = true) twoDrafts
    [.update 0 (oneLine 200 (21 / 2)), .issue 1 (issueOf 0) .app,
      .commit 1 (noon 20000)]
    (fun s : BillingState =>
      ((s.db.accounts.find 0).any fun a => a.invoice.hash.isSome && a.invoice.taxAmount = 2100 &&
        a.invoice.total = 12100) &&
      (billingStep oneTenant .bytes s (.commit 0 (noon 20000))).any fun t : BillingState =>
        (t.db.accounts.find 0).any fun a => a.invoice.taxAmount = 2100 && a.invoice.total = 22100)
    (by decide +kernel)
  simp only [Bool.and_eq_true, Option.any_eq_true, decide_eq_true_eq] at last
  obtain ⟨⟨a, ha, ⟨hashed, htax⟩, htotal⟩, t, step, a', ha', htax', htotal'⟩ := last
  have before := (hashed_run run (twoDrafts_start _).hashed).1.verify 0 _ (Db.fiscal_find ha) hashed
  have reached : Reaches (billingStep oneTenant .bytes) twoDrafts t :=
    .tail (run.mono fun _ _ _ => trivial) trivial step
  have verify := always oneTenant .bytes twoDrafts t Sha256.bytes_injective (twoDrafts_start _) reached
  rcases billingStep_db step with same | ⟨r, clock, req, next, _, _, committed⟩
  · rw [same, ha, Option.some.injEq] at ha'
    subst ha'
    omega
  · have record := commit_total (commitRequest_commit committed) (Db.fiscal_find ha)
      (Db.fiscal_find ha') (by show a'.invoice.total ≠ a.invoice.total; omega)
    have after : { a.fiscal with total := 22100 }.verifies oneTenant .bytes = true := by
      have hash : a'.invoice.hash = a.invoice.hash := congrArg FiscalRecord.hash record
      have := verify 0 a' ha' (by rw [hash]; exact hashed)
      rw [verifyHash_eq, record] at this
      rwa [show a'.fiscal.taxAmount = a.fiscal.taxAmount from htax'.trans htax.symm,
        show a'.fiscal.total = 22100 from htotal'] at this
    have texts := verifies_total Sha256.bytes_injective before after
    rw [show a.fiscal.total = 12100 from htotal] at texts
    exact absurd texts (by decide +kernel)

end StorageOS
