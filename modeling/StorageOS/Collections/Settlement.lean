import StorageOS.Contracts.DepositSettlement
import StorageOS.Lib.Waterfall

/-! The settlement of a delinquency case that ends with the disposal of the goods: the deposit and
then what the goods brought pay the open documents of the contract, oldest first. -/

namespace StorageOS

open Waterfall

abbrev CaseId := ℕ

/-- The open documents of a contract, oldest first; those of one date in the order of their rows. -/
def DepositDb.openDocuments (db : DepositDb) (id : ContractId) : List (InvoiceId × NotedAccount) :=
  (db.invoices.rows.filter fun r => r.2.invoice.contractId = some id &&
    r.2.invoice.status.payable).insertionSort fun x y =>
      earlierFirst x.2.invoice.issueDate y.2.invoice.issueDate

def NotedAccount.pendingCents (a : NotedAccount) : ℤ :=
  max 0 (a.invoice.total - a.invoice.amountPaid - a.invoice.amountRefunded)

def liquidationNotes (caseId : CaseId) : String :=
  "Liquidación expediente " ++ toString caseId ++ " (fianza + disposición)"

def DepositDb.liquidate (clock : Clock) (caseId : CaseId) (invoiceId : InvoiceId) (cents : ℤ)
    (positive : 0 < cents) (db : DepositDb) : Outcome DepositDb := do
  let a ← orMissing (db.invoices.find invoiceId)
  let b ← a.markPaidManually clock none (depositCollection cents positive) (liquidationNotes caseId)
  .ok { db with invoices := db.invoices.modify invoiceId fun _ => b }

structure FineFunds where
  fundsCents : ℤ
  depositAppliedCents : ℤ
  proceedsAppliedCents : ℤ
  invoicesSettled : ℕ

def FineFunds.pay (depositCents payCents : ℤ) (f : FineFunds) : FineFunds :=
  let fromDeposit := min payCents (depositCents - f.depositAppliedCents)
  { fundsCents := f.fundsCents - payCents
    depositAppliedCents := f.depositAppliedCents + fromDeposit
    proceedsAppliedCents := f.proceedsAppliedCents + (payCents - fromDeposit)
    invoicesSettled := f.invoicesSettled + 1 }

def settleDocuments (clock : Clock) (caseId : CaseId) (depositCents : ℤ) :
    List (InvoiceId × NotedAccount) → FineFunds → DepositDb → DepositDb × Outcome FineFunds
  | [], f, db => (db, .ok f)
  | (invoiceId, inv) :: rest, f, db =>
    if spent : f.fundsCents ≤ 0 then (db, .ok f)
    else if pending : 0 < inv.pendingCents then
      match db.liquidate clock caseId invoiceId (min inv.pendingCents f.fundsCents)
          (lt_min pending (not_le.mp spent)) with
      | .error failure => (db, .error failure)
      | .ok db' =>
        settleDocuments clock caseId depositCents rest
          (f.pay depositCents (min inv.pendingCents f.fundsCents)) db'
    else settleDocuments clock caseId depositCents rest f db

structure DelinquencySettlementDto where
  debtBeforeCents : ℤ
  depositAppliedCents : ℤ
  proceedsAppliedCents : ℤ
  debtAfterCents : ℤ
  surplusCents : ℤ
  invoicesSettled : ℕ

def DepositDb.takenDeposit (db : DepositDb) (id : ContractId) (applyDeposit : Bool) : ℤ :=
  match db.contracts.find id with
  | some c =>
    if applyDeposit && c.depositStatus = .held && depositWasCollected db id c then c.depositAmount
    else 0
  | none => 0

def fineReason (caseId : CaseId) : String := "Aplicada a la deuda del expediente " ++ toString caseId

/-- What the debt did not need of the deposit is to be given back. -/
def DepositContract.liquidated (clock : Clock) (caseId : CaseId) (depositReturnedCents : ℤ)
    (c : DepositContract) : DepositContract :=
  { c with
    depositStatus := if depositReturnedCents > 0 then .partiallyReturned else .returned
    depositReturnedAmount := column (euros depositReturnedCents)
    depositSettledAt := some clock.now
    depositRetentionReason := some (fineReason caseId) }

def applyFineSettlement (clock : Clock) (caseId : CaseId) (id : ContractId) (proceedsCents : ℤ)
    (applyDeposit : Bool) (db : DepositDb) : DepositDb × Outcome DelinquencySettlementDto :=
  let depositCents := db.takenDeposit id applyDeposit
  let invoices := db.openDocuments id
  let debtBeforeCents := (invoices.map fun r => r.2.pendingCents).sum
  match settleDocuments clock caseId depositCents invoices
      ⟨depositCents + proceedsCents, 0, 0, 0⟩ db with
  | (db', .error failure) => (db', .error failure)
  | (db', .ok f) =>
    let liquidated := DepositContract.liquidated clock caseId (depositCents - f.depositAppliedCents)
    (if depositCents > 0 then { db' with contracts := db'.contracts.modify id liquidated } else db',
      .ok
      { debtBeforeCents := debtBeforeCents
        depositAppliedCents := f.depositAppliedCents
        proceedsAppliedCents := f.proceedsAppliedCents
        debtAfterCents := max 0 (debtBeforeCents - f.depositAppliedCents - f.proceedsAppliedCents)
        surplusCents := max 0 f.fundsCents
        invoicesSettled := f.invoicesSettled })

/-! ### The waterfall -/

def documentDue (r : InvoiceId × NotedAccount) : ℤ :=
  r.2.invoice.total - r.2.invoice.amountPaid - r.2.invoice.amountRefunded

def FineFunds.DepositFirst (depositCents : ℤ) (f : FineFunds) : Prop :=
  f.depositAppliedCents = min (f.depositAppliedCents + f.proceedsAppliedCents) depositCents

variable {clock : Clock} {caseId : CaseId} {id : ContractId} {db db' : DepositDb}
  {depositCents : ℤ}

variable {f : FineFunds} {row : InvoiceId × NotedAccount} {c : DepositContract}

theorem FineFunds.DepositFirst.pay (first : f.DepositFirst depositCents) {payCents : ℤ} (nonneg : 0 ≤ payCents) :
    (f.pay depositCents payCents).DepositFirst depositCents := by
  simp only [FineFunds.DepositFirst, FineFunds.pay] at first ⊢
  omega

theorem liquidate_made (clock : Clock) (caseId : CaseId) {invoiceId : InvoiceId} {cents : ℤ}
    (positive : 0 < cents) {a : NotedAccount} (found : db.invoices.find invoiceId = some a)
    (payable : a.invoice.status.payable = true) (refunded : 0 ≤ a.invoice.amountRefunded)
    (fits : cents ≤ a.pendingCents) :
    ∃ b, db.liquidate clock caseId invoiceId cents positive =
        .ok { db with invoices := db.invoices.modify invoiceId fun _ => b } ∧
      b.invoice.amountPaid = a.invoice.amountPaid + cents := by
  have within : a.invoice.amountPaid + toCents (depositCollection cents positive).amount ≤
      a.invoice.total := by
    simp only [depositCollection, toCents_euros]
    unfold NotedAccount.pendingCents at fits
    omega
  obtain ⟨b, made⟩ := NotedAccount.markPaidManually_accepts clock
    (depositCollection cents positive) (liquidationNotes caseId) rfl rfl rfl rfl payable within none
  obtain ⟨payment, collection, -⟩ := NotedAccount.markPaidManually_ok made
  refine ⟨b, ?_, ?_⟩
  · simp only [DepositDb.liquidate, found, orMissing]
    change (a.markPaidManually clock none (depositCollection cents positive)
      (liquidationNotes caseId) >>= _) = _
    rw [made]
    rfl
  · rw [collection.paid]
    simp [NotedAccount.account, depositCollection]

/-- What the settlement of documents leaves: it pays each its part, in their order. -/
structure DocumentsSettled (depositCents : ℤ) (rows : List (InvoiceId × NotedAccount))
    (f f' : FineFunds) (db db' : DepositDb) : Prop where
  contracts : db'.contracts = db.contracts
  funds : f'.fundsCents = f.fundsCents - min (owed documentDue rows) f.fundsCents
  applied : f'.depositAppliedCents + f'.proceedsAppliedCents =
    f.depositAppliedCents + f.proceedsAppliedCents + min (owed documentDue rows) f.fundsCents
  first : f'.DepositFirst depositCents
  others : ∀ k, k ∉ rows.map Prod.fst → db'.invoices.find k = db.invoices.find k
  parts : ∀ before row after, rows = before ++ row :: after →
    ∃ a, db'.invoices.find row.1 = some a ∧ a.invoice.amountPaid =
      row.2.invoice.amountPaid + part documentDue row (f.fundsCents - owed documentDue before)

theorem DocumentsSettled.cons {rest : List (InvoiceId × NotedAccount)} {f g f' : FineFunds} {mid : DepositDb}
    {b : NotedAccount} (nonneg : 0 ≤ f.fundsCents) (fresh : row.1 ∉ rest.map Prod.fst)
    (contracts : mid.contracts = db.contracts) (funds : g.fundsCents = f.fundsCents - part documentDue row f.fundsCents)
    (applied : g.depositAppliedCents + g.proceedsAppliedCents =
      f.depositAppliedCents + f.proceedsAppliedCents + part documentDue row f.fundsCents)
    (written : mid.invoices.find row.1 = some b)
    (paid : b.invoice.amountPaid = row.2.invoice.amountPaid + part documentDue row f.fundsCents)
    (others : ∀ k, k ≠ row.1 → mid.invoices.find k = db.invoices.find k)
    (settled : DocumentsSettled depositCents rest g f' mid db') :
    DocumentsSettled depositCents (row :: rest) f f' db db' := by
  have owes : 0 ≤ owed documentDue rest := owed_nonneg rest
  have gets : part documentDue row f.fundsCents = min (max 0 (documentDue row)) f.fundsCents :=
    part_of_nonneg nonneg row
  refine ⟨settled.contracts.trans contracts, ?_, ?_, settled.first, fun k apart => ?_, ?_⟩
  · rw [settled.funds, owed_cons]
    omega
  · rw [settled.applied, owed_cons]
    omega
  · obtain ⟨other, apart⟩ := not_or.mp (mt List.mem_cons.mpr apart)
    rw [settled.others k apart, others k other]
  · intro before r after split
    cases before with
    | nil =>
      obtain ⟨rfl, rfl⟩ := List.cons.inj split
      refine ⟨b, by rw [settled.others _ fresh, written], ?_⟩
      rw [owed_nil, sub_zero, paid]
    | cons first before =>
      obtain ⟨rfl, later⟩ := List.cons.inj split
      obtain ⟨a, found, paid⟩ := settled.parts before r after later
      exact ⟨a, found, by rw [paid, funds, part_cons row r before nonneg]⟩

theorem settleDocuments_made (clock : Clock) (caseId : CaseId) {rows : List (InvoiceId × NotedAccount)}
    (nonneg : 0 ≤ f.fundsCents) (first : f.DepositFirst depositCents)
    (stored : ∀ row ∈ rows, db.invoices.find row.1 = some row.2 ∧
      row.2.invoice.status.payable = true ∧ 0 ≤ row.2.invoice.amountRefunded) (distinct : (rows.map Prod.fst).Nodup) :
    ∃ db' f', settleDocuments clock caseId depositCents rows f db = (db', .ok f') ∧
      DocumentsSettled depositCents rows f f' db db' := by
  induction rows generalizing f db with
  | nil =>
    refine ⟨db, f, rfl, rfl, ?_, ?_, first, fun _ _ => rfl, ?_⟩
    · rw [owed_nil]
      omega
    · rw [owed_nil]
      omega
    · intro before row after split
      simp at split
  | cons row rest ih =>
    obtain ⟨found, payable, refunded⟩ := stored row List.mem_cons_self
    have others : ∀ r ∈ rest, db.invoices.find r.1 = some r.2 ∧
        r.2.invoice.status.payable = true ∧ 0 ≤ r.2.invoice.amountRefunded :=
      fun r mem => stored r (List.mem_cons_of_mem _ mem)
    obtain ⟨fresh, distinct⟩ := List.nodup_cons.mp distinct
    have due : row.2.pendingCents = max 0 (documentDue row) := rfl
    have gets : part documentDue row f.fundsCents = min (max 0 (documentDue row)) f.fundsCents :=
      part_of_nonneg nonneg row
    rw [settleDocuments]
    by_cases spent : f.fundsCents ≤ 0
    · rw [dif_pos spent]
      have all : 0 ≤ owed documentDue (row :: rest) := owed_nonneg (row :: rest)
      refine ⟨db, f, rfl, rfl, by omega, by omega, first, fun _ _ => rfl, ?_⟩
      intro before r after split
      have earlier : 0 ≤ owed documentDue before := owed_nonneg before
      obtain ⟨found, -⟩ := stored r (by rw [split]; simp)
      exact ⟨r.2, found, by rw [part_of_spent (by omega), add_zero]⟩
    · rw [dif_neg spent]
      by_cases pending : 0 < row.2.pendingCents
      · rw [dif_pos pending]
        obtain ⟨b, made, paid⟩ := liquidate_made clock caseId
          (lt_min pending (not_le.mp spent)) found payable refunded (min_le_left _ _)
        rw [made]
        rw [due, ← gets] at paid ⊢
        let mid : DepositDb := { db with invoices := db.invoices.modify row.1 fun _ => b }
        have kept : ∀ r ∈ rest, mid.invoices.find r.1 = some r.2 ∧
            r.2.invoice.status.payable = true ∧ 0 ≤ r.2.invoice.amountRefunded := by
          intro r mem
          obtain ⟨stored, rest⟩ := others r mem
          have apart : r.1 ≠ row.1 := fun same => fresh (List.mem_map.mpr ⟨r, mem, same⟩)
          exact ⟨by rw [Table.find_modify_ne _ apart, stored], rest⟩
        obtain ⟨db', f', settled, all⟩ := ih
          (f := f.pay depositCents (part documentDue row f.fundsCents))
          (by simp only [FineFunds.pay]; omega) (first.pay (by omega)) kept distinct
        refine ⟨db', f', settled, all.cons nonneg fresh ?_ rfl ?_ ?_ paid fun k other => ?_⟩
        · rfl
        · simp only [FineFunds.pay]
          ring
        · simp [mid, found]
        · exact Table.find_modify_ne _ other _
      · rw [dif_neg pending]
        have nothing : part documentDue row f.fundsCents = 0 := by omega
        obtain ⟨db', f', settled, all⟩ := ih nonneg first others distinct
        refine ⟨db', f', settled, all.cons nonneg fresh rfl ?_ ?_ found ?_ fun _ _ => rfl⟩
        · omega
        · omega
        · omega

/-! ### The settlement of a case -/

theorem earlierFirst_total (x y : Option Date) : earlierFirst x y = true ∨ earlierFirst y x = true := by
  cases x <;> cases y <;> simp [earlierFirst, le_total]

theorem earlierFirst_trans {x y z : Option Date} (h : earlierFirst x y = true)
    (h' : earlierFirst y z = true) : earlierFirst x z = true := by
  cases x <;> cases y <;> cases z <;> simp_all [earlierFirst]
  exact h.trans h'

theorem openDocuments_ordered (db : DepositDb) (id : ContractId) :
    (db.openDocuments id).Pairwise fun x y =>
      earlierFirst x.2.invoice.issueDate y.2.invoice.issueDate = true := by
  have total : Std.Total fun x y : InvoiceId × NotedAccount =>
      earlierFirst x.2.invoice.issueDate y.2.invoice.issueDate = true :=
    ⟨fun x y => earlierFirst_total _ _⟩
  have trans : IsTrans (InvoiceId × NotedAccount) fun x y =>
      earlierFirst x.2.invoice.issueDate y.2.invoice.issueDate = true :=
    ⟨fun x y z => earlierFirst_trans⟩
  exact List.pairwise_insertionSort _ _

/-- The open documents of a contract are invoices of its rent, in order. -/
def DepositDb.RentOnly (db : DepositDb) (id : ContractId) : Prop :=
  ∀ row ∈ db.openDocuments id, row.2.invoice.kind = .invoice ∧ row.2.invoice.deletedAt = none ∧
    0 ≤ row.2.invoice.amountRefunded

theorem openDocuments_stored (db : DepositDb) (id : ContractId) (mem : row ∈ db.openDocuments id) :
    db.invoices.find row.1 = some row.2 ∧
      row.2.invoice.status.payable = true ∧ row.2.invoice.contractId = some id := by
  rw [DepositDb.openDocuments, List.mem_insertionSort, List.mem_filter] at mem
  obtain ⟨mem, selected⟩ := mem
  simp only [Bool.and_eq_true, decide_eq_true_eq] at selected
  exact ⟨Table.find_eq_some.mpr mem, selected.2, selected.1⟩

theorem openDocuments_distinct (db : DepositDb) (id : ContractId) :
    ((db.openDocuments id).map Prod.fst).Nodup := by
  refine ((List.perm_insertionSort _ _).map Prod.fst).nodup_iff.mpr ?_
  exact db.invoices.distinct.sublist (List.filter_sublist.map _)

/-- When they are all of rent, they are the invoices that settling the deposit by hand pays. -/
theorem openInvoices_eq (rent : db.RentOnly id) : db.openInvoices id = db.openDocuments id := by
  rw [DepositDb.openInvoices, DepositDb.openDocuments]
  congr 1
  refine List.filter_congr fun r mem => ?_
  by_cases selected : (r.2.invoice.contractId = some id && r.2.invoice.status.payable) = true
  · obtain ⟨kind, kept, -⟩ :=
      rent r ((List.mem_insertionSort _).mpr (List.mem_filter.mpr ⟨mem, selected⟩))
    simp [Invoice.ofContract, kind, kept]
  · rw [Bool.not_eq_true] at selected
    rw [selected, Invoice.ofContract]
    grind

theorem applied_planned (rows : List (InvoiceId × NotedAccount)) (funds : ℤ) (nonneg : 0 ≤ funds) :
    appliedCents (plannedApplications rows funds) =
      min (owed (fun r => r.2.pending) rows) funds := by
  induction rows generalizing funds with
  | nil => simpa [plannedApplications] using nonneg
  | cons row rest ih =>
    have owes : 0 ≤ owed (fun r : InvoiceId × NotedAccount => r.2.pending) rest := owed_nonneg rest
    rw [plannedApplications, owed_cons]
    split_ifs with spent positive
    · rw [appliedCents_nil]
      omega
    · rw [appliedCents_cons, ih _ (by omega)]
      dsimp only
      omega
    · rw [ih _ nonneg]
      omega

theorem takenDeposit_pos {applyDeposit : Bool} (taken : 0 < db.takenDeposit id applyDeposit) :
    ∃ c, db.contracts.find id = some c ∧ db.takenDeposit id applyDeposit = c.depositAmount ∧
      c.depositStatus = .held ∧ depositWasCollected db id c = true := by
  unfold DepositDb.takenDeposit at taken ⊢
  cases found : db.contracts.find id with
  | none => simp [found] at taken
  | some c =>
    simp only [found] at taken ⊢
    split at taken
    · rename_i collected
      rw [if_pos collected]
      simp only [Bool.and_eq_true, decide_eq_true_eq] at collected
      exact ⟨c, rfl, rfl, collected.1.2, collected.2⟩
    · cases taken

/-- What a disposal settles: the debt of the documents, in their order, with the deposit and then the
proceeds. -/
structure FineSettled (proceedsCents depositCents : ℤ) (id : ContractId) (db db' : DepositDb)
    (dto : DelinquencySettlementDto) : Prop where
  debt : dto.debtBeforeCents = owed documentDue (db.openDocuments id)
  applied : dto.depositAppliedCents + dto.proceedsAppliedCents =
    min dto.debtBeforeCents (depositCents + proceedsCents)
  depositFirst : dto.depositAppliedCents = min dto.debtBeforeCents depositCents
  ordered : (db.openDocuments id).Pairwise fun x y =>
    earlierFirst x.2.invoice.issueDate y.2.invoice.issueDate = true
  oldestFirst : ∀ before row after, db.openDocuments id = before ++ row :: after →
    ∃ a, db'.invoices.find row.1 = some a ∧ a.invoice.amountPaid = row.2.invoice.amountPaid +
      part documentDue row (depositCents + proceedsCents - owed documentDue before)

/-- The deposit that a disposal takes is left as settling it by hand leaves it for the same amounts:
what the debt took is retained and applied, and the rest is returned. -/
structure DepositAgrees (depositCents : ℤ) (id : ContractId) (db db' : DepositDb)
    (dto : DelinquencySettlementDto) : Prop where
  written : ∃ c, db'.contracts.find id = some c ∧ c.depositAmount = depositCents ∧
    c.depositReturnedAmount = depositCents - dto.depositAppliedCents ∧
    c.depositStatus = if c.depositReturnedAmount > 0 then .partiallyReturned else .returned
  byHand : ∀ clock reason, blank reason = false → ∃ byHand c,
    settleDeposit clock noFaults false id
      ⟨euros (depositCents - dto.depositAppliedCents), reason, true⟩ db =
        (byHand, .ok dto.depositAppliedCents) ∧
    byHand.contracts.find id = some c ∧ c.depositAmount = depositCents ∧
    c.depositReturnedAmount = depositCents - dto.depositAppliedCents

/-- With no failure all that is planned is applied, and the rest of the contract stays. -/
theorem applyRetainedDeposit_applies (clock : Clock) {retained : ℤ} (nonneg : 0 ≤ retained)
    (stored : db.contracts.find id = some c) :
    ∃ made c', applyRetainedDeposit clock noFaults id retained db =
        (made, .ok (min (owed (fun r => r.2.pending) (db.openInvoices id)) retained)) ∧
      made.contracts.find id = some c' ∧ c'.depositAmount = c.depositAmount ∧
      c'.depositReturnedAmount = c.depositReturnedAmount := by
  obtain ⟨done, contracts, -, outcome⟩ := applyToInvoices_made clock noFaults retained 0
    (openInvoices_stored db id) (openInvoices_distinct db id)
  rcases outcome with ⟨ok, -, -⟩ | ⟨failure, p, rest, -, -, faulty⟩
  · rw [zero_add, applied_planned _ _ nonneg] at ok
    unfold applyRetainedDeposit
    cases loop : applyToInvoices clock noFaults (db.openInvoices id) retained 0 db with
    | mk made result =>
      rw [loop] at contracts ok
      simp only at contracts ok
      subst ok
      simp only
      have same : made.contracts.find id = some c := by rw [contracts, stored]
      split
      · refine ⟨_, { c with
          depositAppliedAmount := min (owed (fun r => r.2.pending) (db.openInvoices id)) retained },
          rfl, ?_, rfl, rfl⟩
        simp [DepositDb.setApplied, same]
      · exact ⟨made, c, rfl, same, rfl, rfl⟩
  · cases faulty

theorem settleDeposit_planned (clock : Clock) {reason : Option String} (stored : db.contracts.find id = some c)
    (held : c.depositStatus = .held) (collected : depositWasCollected db id c = true) {appliedCents : ℤ}
    (nonneg : 0 ≤ appliedCents) (fits : appliedCents ≤ c.depositAmount) (said : blank reason = false)
    (debt : appliedCents ≤ owed (fun r => r.2.pending) (db.openInvoices id)) :
    ∃ byHand c', settleDeposit clock noFaults false id
        ⟨euros (c.depositAmount - appliedCents), reason, true⟩ db = (byHand, .ok appliedCents) ∧
      byHand.contracts.find id = some c' ∧ c'.depositAmount = c.depositAmount ∧
      c'.depositReturnedAmount = c.depositAmount - appliedCents := by
  let input : SettleDepositInput := ⟨euros (c.depositAmount - appliedCents), reason, true⟩
  have returned : ¬input.returnedAmount < 0 := by
    rw [not_lt]
    exact div_nonneg (Int.cast_nonneg (by omega)) (by norm_num)
  have retained : c.retained input = appliedCents := by
    simp [DepositContract.retained, input]
  have claimed : claimDeposit clock false id input db =
      .ok ({ db with contracts := db.contracts.modify id (DepositContract.settled clock.now input) },
        appliedCents) := by
    rw [← retained]
    have within : ¬toCents input.returnedAmount > c.depositAmount := by
      rw [toCents_euros]
      omega
    simp [claimDeposit, bind, Except.bind, stored, orFail, refuseIf, held, collected, returned, within,
      said, show input.retentionReason = reason from rfl, retained]
  let closed : DepositDb :=
    { db with contracts := db.contracts.modify id (DepositContract.settled clock.now input) }
  have kept : closed.contracts.find id = some (c.settled clock.now input) := by
    simp [closed, stored]
  obtain ⟨made, c', applied, found, amount, back⟩ :=
    applyRetainedDeposit_applies clock nonneg kept
  refine ⟨made, c', ?_, found, amount, ?_⟩
  · rw [settleDeposit, claimed]
    simp only [if_true, closed] at applied ⊢
    rw [applied]
    exact congrArg (fun cents => (made, Except.ok cents)) (min_eq_right debt)
  · rw [back]
    exact column_euros _

/-- In every disposal the deposit and then the proceeds pay all the debt they reach, oldest document
first, and a deposit that is taken is left as settling it by hand leaves it. -/
theorem fineSettlement_agrees (clock : Clock) (caseId : CaseId) {proceedsCents : ℤ}
    (applyDeposit : Bool) (proceeds : 0 ≤ proceedsCents)
    (deposit : ∀ c, db.contracts.find id = some c → 0 ≤ c.depositAmount) (rent : db.RentOnly id) :
    ∃ db' dto, applyFineSettlement clock caseId id proceedsCents applyDeposit db = (db', .ok dto) ∧
      FineSettled proceedsCents (db.takenDeposit id applyDeposit) id db db' dto ∧
      (0 < db.takenDeposit id applyDeposit →
        DepositAgrees (db.takenDeposit id applyDeposit) id db db' dto) := by
  have taken : 0 ≤ db.takenDeposit id applyDeposit := by
    unfold DepositDb.takenDeposit
    split
    · rename_i c found
      split
      · exact deposit c found
      · exact le_refl 0
    · exact le_refl 0
  have debt : ((db.openDocuments id).map fun r => r.2.pendingCents).sum =
      owed documentDue (db.openDocuments id) := rfl
  have owes : 0 ≤ owed documentDue (db.openDocuments id) := owed_nonneg (db.openDocuments id)
  have unspent : FineFunds.DepositFirst (db.takenDeposit id applyDeposit)
      ⟨db.takenDeposit id applyDeposit + proceedsCents, 0, 0, 0⟩ := by
    simp [FineFunds.DepositFirst, taken]
  obtain ⟨paid, f, made, settled⟩ := settleDocuments_made clock caseId
    (add_nonneg taken proceeds) unspent (fun row mem => by
      obtain ⟨found, payable, -⟩ := openDocuments_stored db id mem
      exact ⟨found, payable, (rent row mem).2.2⟩)
    (openDocuments_distinct db id)
  have all := settled.applied
  have first := settled.first
  rw [FineFunds.DepositFirst] at first
  simp only [add_zero, zero_add] at all
  have ordered : f.depositAppliedCents =
      min (owed documentDue (db.openDocuments id)) (db.takenDeposit id applyDeposit) := by
    omega
  refine ⟨_, _, by rw [applyFineSettlement, made], ⟨debt, by rw [debt]; exact all,
    by rw [debt]; exact ordered, openDocuments_ordered db id, ?_⟩, fun some_ => ?_⟩
  · intro before row after split
    obtain ⟨a, found, amount⟩ := settled.parts before row after split
    refine ⟨a, ?_, amount⟩
    split <;> exact found
  · obtain ⟨c, found, amount, held, collected⟩ := takenDeposit_pos some_
    constructor
    · refine ⟨c.liquidated clock caseId (db.takenDeposit id applyDeposit - f.depositAppliedCents),
        ?_, amount.symm, column_euros _, ?_⟩
      · rw [if_pos some_]
        simp [settled.contracts, found]
      · simp [DepositContract.liquidated]
    · intro clock' reason said
      rw [amount] at ordered ⊢
      dsimp only
      refine settleDeposit_planned clock' found held collected ?_ ?_ said ?_
      · omega
      · omega
      · rw [openInvoices_eq rent]
        refine le_trans (b := owed documentDue (db.openDocuments id)) (by omega)
          (owed_mono fun row mem => ?_)
        have refunded := (rent row mem).2.2
        simp only [documentDue, NotedAccount.pending]
        omega

/-- A contract that has ended with 100 € of deposit held and two open invoices of 100 €. -/
def usedUpDeposit : DepositDb :=
  { heldDeposit with
    contracts := Table.empty.push ⟨.ended, .held, 10000, 0, 0, none, none, true⟩ }

theorem usedUpDeposit_rent : usedUpDeposit.RentOnly 0 := by
  show ∀ row ∈ usedUpDeposit.openDocuments 0, _
  decide +kernel

theorem usedUpDeposit_stored : ∀ c, usedUpDeposit.contracts.find 0 = some c → 0 ≤ c.depositAmount := by
  intro c found
  have only : c = ⟨.ended, .held, 10000, 0, 0, none, none, true⟩ := by
    rw [Table.find_eq_some] at found
    simpa [usedUpDeposit, Table.empty, Table.nextKey] using found
  rw [only]
  decide

/-- The deposit pays the first invoice and 50 € of proceeds half of the second. -/
theorem fineSettlement_agrees_usedUp :
    usedUpDeposit.takenDeposit 0 true = 10000 ∧
    ∃ db' dto, applyFineSettlement (noon 20100) 7 0 5000 true usedUpDeposit = (db', .ok dto) ∧
      FineSettled 5000 (usedUpDeposit.takenDeposit 0 true) 0 usedUpDeposit db' dto ∧
      (0 < usedUpDeposit.takenDeposit 0 true →
        DepositAgrees (usedUpDeposit.takenDeposit 0 true) 0 usedUpDeposit db' dto) :=
  ⟨by decide +kernel, fineSettlement_agrees (noon 20100) 7 true (by decide) usedUpDeposit_stored
    usedUpDeposit_rent⟩

structure SameDeposit (c c' : DepositContract) : Prop where
  status : c.depositStatus = c'.depositStatus
  applied : c.depositAppliedAmount = c'.depositAppliedAmount
  retained : c.depositAmount - c.depositReturnedAmount = c'.depositAmount - c'.depositReturnedAmount
  returned : c.depositReturnedAmount = c'.depositReturnedAmount

/-- A deposit used up by the debt is returned after a disposal and partially returned when it is
settled by hand. -/
theorem fineSettlement_differs :
    ¬∀ (clock : Clock) (caseId : CaseId) (id : ContractId) (proceedsCents : ℤ) (reason : Option String)
      (db db' byHand : DepositDb) (dto : DelinquencySettlementDto) (applied : ℤ)
      (c c' : DepositContract), 0 ≤ proceedsCents → 0 < db.takenDeposit id true →
      applyFineSettlement clock caseId id proceedsCents true db = (db', .ok dto) →
      settleDeposit clock noFaults false id
        ⟨euros (db.takenDeposit id true - dto.depositAppliedCents), reason, true⟩ db =
          (byHand, .ok applied) →
      db'.contracts.find id = some c → byHand.contracts.find id = some c' → SameDeposit c c' := by
  intro always
  have ofCase : ((applyFineSettlement (noon 20100) 7 0 0 true usedUpDeposit).2.toOption.map fun dto =>
      dto.depositAppliedCents) = some 10000 ∧
      ((applyFineSettlement (noon 20100) 7 0 0 true usedUpDeposit).1.contracts.find 0).map
        (·.depositStatus) = some .returned := by decide +kernel
  have ofHand : (settleDeposit (noon 20100) noFaults false 0 keepAll usedUpDeposit).2.toOption =
      some 10000 ∧ ((settleDeposit (noon 20100) noFaults false 0 keepAll
        usedUpDeposit).1.contracts.find 0).map (·.depositStatus) = some .partiallyReturned := by
    decide +kernel
  cases made : applyFineSettlement (noon 20100) 7 0 0 true usedUpDeposit with
  | mk db' result =>
  cases settled : settleDeposit (noon 20100) noFaults false 0 keepAll usedUpDeposit with
  | mk byHand outcome =>
  rw [made] at ofCase
  rw [settled] at ofHand
  cases result with
  | error failure => simp [Except.toOption] at ofCase
  | ok dto =>
    cases outcome with
    | error failure => simp [Except.toOption] at ofHand
    | ok applied =>
      obtain ⟨used, status⟩ := ofCase
      obtain ⟨-, status'⟩ := ofHand
      obtain ⟨c, found, status⟩ := Option.map_eq_some_iff.mp status
      obtain ⟨c', found', status'⟩ := Option.map_eq_some_iff.mp status'
      have used : dto.depositAppliedCents = 10000 := Option.some.inj used
      have taken : usedUpDeposit.takenDeposit 0 true = 10000 := by decide +kernel
      have same := always (noon 20100) 7 0 0 (some "deuda pendiente") usedUpDeposit db' byHand dto
        applied c c' (le_refl 0) (by rw [taken]; decide) made
        (by rw [taken, used]; simpa [keepAll, euros] using settled) found found'
      have differ := same.status
      rw [status, status'] at differ
      cases differ

end StorageOS
