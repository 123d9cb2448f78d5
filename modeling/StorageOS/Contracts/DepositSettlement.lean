import StorageOS.Contracts.Units
import StorageOS.Payments.Ledger

/-! The deposit of a contract when it is settled. What is kept of it pays the open invoices of the
contract, each in a transaction of its own, and the sum is written on the contract at the end. -/

namespace StorageOS

structure DepositContract where
  status : ContractStatus
  depositStatus : ContractDepositStatus
  depositAmount : ℤ
  depositReturnedAmount : ℤ
  depositAppliedAmount : ℤ
  depositRetentionReason : Option String
  depositSettledAt : Option Instant
  /-- The contract came from another system with its deposit collected. -/
  migrated : Bool
  deriving DecidableEq

structure DepositDb where
  contracts : Table ContractId DepositContract
  invoices : Table InvoiceId NotedAccount

structure SettleDepositInput where
  returnedAmount : ℚ
  retentionReason : Option String
  applyToInvoices : Bool

/-- The failures of the database: of the transaction that pays an invoice, and of the last update. -/
structure DepositFaults where
  application : InvoiceId → Option Failure
  total : Option Failure

def noFaults : DepositFaults := ⟨fun _ => none, none⟩

/-! ### Settling -/

def Invoice.ofContract (i : Invoice) (id : ContractId) : Bool :=
  i.contractId = some id && i.deletedAt.isNone

/-- A paid receipt of the deposit, or a paid invoice with a line for it. -/
def Invoice.collectsDeposit (i : Invoice) : Bool :=
  (i.status = .paid || i.status = .partiallyRefunded || i.status = .refunded) &&
    (i.kind = .depositReceipt ||
      i.items.any fun it => "Fianza".toList.isPrefixOf it.description.toList)

def depositWasCollected (db : DepositDb) (id : ContractId) (existing : DepositContract) : Bool :=
  existing.migrated ||
    db.invoices.rows.any fun r => r.2.invoice.ofContract id && r.2.invoice.collectsDeposit

def DepositDb.hasReceipt (db : DepositDb) (id : ContractId) : Bool :=
  db.invoices.rows.any fun r => r.2.invoice.ofContract id && r.2.invoice.kind = .depositReceipt &&
    r.2.invoice.status ≠ .cancelled

/-- A closed contract without a receipt is older than the receipts. -/
def DepositDb.legacyClosed (db : DepositDb) (id : ContractId) (existing : DepositContract) : Bool :=
  (existing.status = .ended || existing.status = .cancelled) && !db.hasReceipt id

def DepositContract.retained (c : DepositContract) (input : SettleDepositInput) : ℤ :=
  c.depositAmount - toCents input.returnedAmount

def DepositContract.settled (now : Instant) (input : SettleDepositInput) (c : DepositContract) :
    DepositContract :=
  { c with
    depositStatus := if toCents input.returnedAmount ≥ c.depositAmount then .returned
      else .partiallyReturned
    depositReturnedAmount := column input.returnedAmount
    depositRetentionReason := if 0 < c.retained input then input.retentionReason.map trim else none
    depositSettledAt := some now }

/-- The checks of a settlement and the update that claims the deposit, with what is kept of it. -/
def claimDeposit (clock : Clock) (closeUncollected : Bool) (id : ContractId)
    (input : SettleDepositInput) (db : DepositDb) : Outcome (DepositDb × ℤ) := do
  let existing ← orFail (db.contracts.find id)
    (notFound "contract_not_found" "Contrato no encontrado")
  refuseIf (existing.depositStatus ≠ .held)
    (badRequest "deposit_not_held" "La fianza no está retenida (nada que liquidar)")
  refuseIf (!depositWasCollected db id existing && !db.legacyClosed id existing && !closeUncollected)
    (badRequest "deposit_not_collected"
      "La fianza aún no se ha cobrado: no hay nada que devolver ni retener")
  refuseIf (input.returnedAmount < 0 ∨ toCents input.returnedAmount > existing.depositAmount)
    (badRequest "invalid_return_amount" ("El importe a devolver debe estar entre 0 y " ++
      toFixed2 existing.depositAmount ++ " €"))
  refuseIf (0 < existing.retained input ∧ blank input.retentionReason)
    (badRequest "retention_reason_required"
      "Indica el motivo de la retención (daños, deuda pendiente, …)")
  .ok ({ db with contracts := db.contracts.modify id (DepositContract.settled clock.now input) },
    existing.retained input)

/-! ### Applying what is kept -/

def earlierFirst (x y : Option Date) : Bool :=
  match x, y with
  | _, none => true
  | none, some _ => false
  | some x, some y => x ≤ y

def DepositDb.openInvoices (db : DepositDb) (id : ContractId) : List (InvoiceId × NotedAccount) :=
  (db.invoices.rows.filter fun r => r.2.invoice.ofContract id && r.2.invoice.kind = .invoice &&
    r.2.invoice.status.payable).insertionSort fun x y =>
      earlierFirst x.2.invoice.issueDate y.2.invoice.issueDate

def depositNotes : String := "Aplicado de la fianza retenida"

def depositCollection (cents : ℤ) (positive : 0 < cents) : MarkPaidManuallyInput where
  amount := euros cents
  positive := euros_pos positive
  paidAt := none
  methodType := .other
  overridePaymentInFlight := true
  allowPartialNonCash := true
  allowInSepaRemittance := true

def DepositDb.apply (clock : Clock) (faults : DepositFaults) (invoiceId : InvoiceId) (cents : ℤ)
    (positive : 0 < cents) (db : DepositDb) : Outcome DepositDb :=
  match faults.application invoiceId with
  | some failure => .error failure
  | none => do
    let a ← orMissing (db.invoices.find invoiceId)
    let b ← a.markPaidManually clock none (depositCollection cents positive) depositNotes
    .ok { db with invoices := db.invoices.modify invoiceId fun _ => b }

def NotedAccount.pending (a : NotedAccount) : ℤ := a.invoice.total - a.invoice.amountPaid

/-- Pays the invoices in their order while funds last. A failure leaves the payments made so far. -/
def applyToInvoices (clock : Clock) (faults : DepositFaults) :
    List (InvoiceId × NotedAccount) → ℤ → ℤ → DepositDb → DepositDb × Outcome ℤ
  | [], _, applied, db => (db, .ok applied)
  | (invoiceId, inv) :: rest, funds, applied, db =>
    if funds ≤ 0 then (db, .ok applied)
    else if positive : 0 < min inv.pending funds then
      match db.apply clock faults invoiceId (min inv.pending funds) positive with
      | .error failure => (db, .error failure)
      | .ok db' =>
        applyToInvoices clock faults rest (funds - min inv.pending funds)
          (applied + min inv.pending funds) db'
    else applyToInvoices clock faults rest funds applied db

def DepositDb.setApplied (db : DepositDb) (id : ContractId) (cents : ℤ) : DepositDb :=
  { db with
    contracts := db.contracts.modify id fun c => { c with depositAppliedAmount := cents } }

/-- Pays the open invoices of the contract with what is kept of the deposit, and then writes the sum
on the contract. -/
def applyRetainedDeposit (clock : Clock) (faults : DepositFaults) (id : ContractId) (retained : ℤ)
    (db : DepositDb) : DepositDb × Outcome ℤ :=
  match applyToInvoices clock faults (db.openInvoices id) retained 0 db with
  | (db', .error failure) => (db', .error failure)
  | (db', .ok applied) =>
    if 0 < applied then
      match faults.total with
      | some failure => (db', .error failure)
      | none => (db'.setApplied id applied, .ok applied)
    else (db', .ok applied)

def settleDeposit (clock : Clock) (faults : DepositFaults) (closeUncollected : Bool)
    (id : ContractId) (input : SettleDepositInput) (db : DepositDb) : DepositDb × Outcome ℤ :=
  match claimDeposit clock closeUncollected id input db with
  | .error failure => (db, .error failure)
  | .ok (claimed, retained) =>
    if input.applyToInvoices then applyRetainedDeposit clock faults id retained claimed
    else (claimed, .ok 0)

/-! ### What has been applied -/

def NotedAccount.fromDeposit (a : NotedAccount) : ℤ :=
  a.payments.sum fun p => if p.notes = storedNotes depositNotes then p.amount else 0

def DepositDb.fromDeposit (db : DepositDb) (id : ContractId) : ℤ :=
  db.invoices.sum fun a => if a.invoice.contractId = some id then a.fromDeposit else 0

/-- The applications of a settlement: what each invoice is to be paid, in the order of the loop. -/
def plannedApplications : List (InvoiceId × NotedAccount) → ℤ → List (InvoiceId × ℤ)
  | [], _ => []
  | (invoiceId, inv) :: rest, funds =>
    if funds ≤ 0 then []
    else if 0 < min inv.pending funds then
      (invoiceId, min inv.pending funds) :: plannedApplications rest (funds - min inv.pending funds)
    else plannedApplications rest funds

def appliedCents (applications : List (InvoiceId × ℤ)) : ℤ := (applications.map Prod.snd).sum

def DepositFaults.Spare (faults : DepositFaults) (applications : List (InvoiceId × ℤ)) : Prop :=
  (∀ p ∈ applications, faults.application p.1 = none) ∧ (applications ≠ [] → faults.total = none)

section

variable {clock : Clock} {faults : DepositFaults} {id : ContractId} {db db' : DepositDb}

@[simp] theorem appliedCents_nil : appliedCents [] = 0 := rfl

@[simp] theorem appliedCents_cons (p : InvoiceId × ℤ) (rest : List (InvoiceId × ℤ)) :
    appliedCents (p :: rest) = p.2 + appliedCents rest := by
  simp [appliedCents]

@[simp] theorem appliedCents_append (first rest : List (InvoiceId × ℤ)) :
    appliedCents (first ++ rest) = appliedCents first + appliedCents rest := by
  simp [appliedCents]

variable {rows : List (InvoiceId × NotedAccount)} {funds : ℤ} {applications : List (InvoiceId × ℤ)}

theorem planned_pos {p : InvoiceId × ℤ} (h : p ∈ plannedApplications rows funds) : 0 < p.2 := by
  induction rows generalizing funds with
  | nil => simp [plannedApplications] at h
  | cons row rest ih =>
    rw [plannedApplications] at h
    split_ifs at h with spent positive
    · simp at h
    · rcases List.mem_cons.mp h with rfl | h
      · exact positive
      · exact ih h
    · exact ih h

theorem appliedCents_nonneg (positive : ∀ p ∈ applications, 0 < p.2) : 0 ≤ appliedCents applications := by
  induction applications with
  | nil => simp
  | cons p rest ih =>
    have first := positive p List.mem_cons_self
    have others := ih fun q mem => positive q (List.mem_cons_of_mem _ mem)
    rw [appliedCents_cons]
    omega

theorem appliedCents_pos (positive : ∀ p ∈ applications, 0 < p.2) (some_ : applications ≠ []) :
    0 < appliedCents applications := by
  obtain ⟨p, rest, rfl⟩ := List.exists_cons_of_ne_nil some_
  have first := positive p List.mem_cons_self
  have others := appliedCents_nonneg fun q mem => positive q (List.mem_cons_of_mem _ mem)
  rw [appliedCents_cons]
  omega

theorem planned_le (rows : List (InvoiceId × NotedAccount)) (h : 0 ≤ funds) :
    appliedCents (plannedApplications rows funds) ≤ funds := by
  induction rows generalizing funds with
  | nil => simpa [plannedApplications] using h
  | cons row rest ih =>
    rw [plannedApplications]
    split_ifs with spent positive
    · simpa using h
    · have left : 0 ≤ funds - min row.2.pending funds := by omega
      have := ih left
      rw [appliedCents_cons]
      simp only
      omega
    · exact ih h

variable {invoiceId : InvoiceId} {cents : ℤ}

theorem apply_ok {positive : 0 < cents} (h : db.apply clock faults invoiceId cents positive = .ok db') :
    faults.application invoiceId = none ∧ db'.contracts = db.contracts ∧
    ∃ a b, db.invoices.find invoiceId = some a ∧
      db'.invoices = db.invoices.modify invoiceId (fun _ => b) ∧
      b.invoice.contractId = a.invoice.contractId ∧ b.fromDeposit = a.fromDeposit + cents := by
  unfold DepositDb.apply at h
  split at h
  · cases h
  · rename_i spared
    obtain ⟨a, found, h⟩ := Outcome.bind_ok h
    obtain ⟨b, made, h⟩ := Outcome.bind_ok h
    cases h
    obtain ⟨payment, collection, pushed⟩ := NotedAccount.markPaidManually_ok made
    refine ⟨spared, rfl, a, b, orMissing_ok found, rfl, ?_, ?_⟩
    · exact collection.contract
    · rw [NotedAccount.fromDeposit, pushed, Table.sum_push, collection.payment]
      simp [NotedAccount.fromDeposit, manualPayment, depositCollection]

theorem apply_accepts (clock : Clock) (positive : 0 < cents) {a : NotedAccount}
    (spared : faults.application invoiceId = none) (found : db.invoices.find invoiceId = some a)
    (payable : a.invoice.status.payable = true) (fits : cents ≤ a.pending) :
    ∃ db', db.apply clock faults invoiceId cents positive = .ok db' := by
  have within : a.invoice.amountPaid + toCents (depositCollection cents positive).amount ≤
      a.invoice.total := by
    simp only [depositCollection, toCents_euros]
    unfold NotedAccount.pending at fits
    omega
  obtain ⟨b, made⟩ := NotedAccount.markPaidManually_accepts clock
    (depositCollection cents positive) depositNotes rfl rfl rfl rfl payable within none
  refine ⟨{ db with invoices := db.invoices.modify invoiceId fun _ => b }, ?_⟩
  simp only [DepositDb.apply, spared, found, orMissing]
  change (a.markPaidManually clock none (depositCollection cents positive) depositNotes >>= _) = _
  rw [made]
  rfl

/-- The sum of the payments from the deposit grows by the application, for its contract only. -/
theorem apply_fromDeposit {a b : NotedAccount} (found : db.invoices.find invoiceId = some a)
    (invoices : db'.invoices = db.invoices.modify invoiceId fun _ => b)
    (contract : b.invoice.contractId = a.invoice.contractId) (paid : b.fromDeposit = a.fromDeposit + cents)
    (other : ContractId) :
    db'.fromDeposit other =
      db.fromDeposit other + if a.invoice.contractId = some other then cents else 0 := by
  rw [DepositDb.fromDeposit, invoices, Table.sum_modify found, contract, paid]
  split <;> simp [DepositDb.fromDeposit]

/-- The loop makes the planned applications in order, up to the first one that fails. -/
theorem applyToInvoices_made (clock : Clock) (faults : DepositFaults) (funds applied : ℤ)
    (stored : ∀ row ∈ rows, db.invoices.find row.1 = some row.2 ∧
      row.2.invoice.status.payable = true ∧ row.2.invoice.contractId = some id) (distinct : (rows.map Prod.fst).Nodup) :
    ∃ done, (applyToInvoices clock faults rows funds applied db).1.contracts = db.contracts ∧
      (∀ other, (applyToInvoices clock faults rows funds applied db).1.fromDeposit other =
        db.fromDeposit other + if id = other then appliedCents done else 0) ∧
      (((applyToInvoices clock faults rows funds applied db).2 =
          .ok (applied + appliedCents (plannedApplications rows funds)) ∧
        done = plannedApplications rows funds ∧
        ∀ p ∈ plannedApplications rows funds, faults.application p.1 = none) ∨
      ∃ failure p rest, (applyToInvoices clock faults rows funds applied db).2 = .error failure ∧
        plannedApplications rows funds = done ++ p :: rest ∧
        faults.application p.1 = some failure) := by
  induction rows generalizing funds applied db with
  | nil =>
    exact ⟨[], rfl, by simp [applyToInvoices], .inl (by simp [applyToInvoices, plannedApplications])⟩
  | cons row rest ih =>
    obtain ⟨found, payable, contract⟩ := stored row List.mem_cons_self
    have others : ∀ r ∈ rest, db.invoices.find r.1 = some r.2 ∧
        r.2.invoice.status.payable = true ∧ r.2.invoice.contractId = some id :=
      fun r mem => stored r (List.mem_cons_of_mem _ mem)
    obtain ⟨fresh, distinct⟩ := List.nodup_cons.mp distinct
    rw [applyToInvoices, plannedApplications]
    by_cases spent : funds ≤ 0
    · rw [if_pos spent, if_pos spent]
      exact ⟨[], rfl, by simp, .inl (by simp)⟩
    rw [if_neg spent, if_neg spent]
    by_cases positive : 0 < min row.2.pending funds
    · rw [dif_pos positive, if_pos positive]
      cases made : db.apply clock faults row.1 (min row.2.pending funds) positive with
      | error failure =>
        have faulty : faults.application row.1 = some failure := by
          cases spared : faults.application row.1 with
          | none =>
            obtain ⟨db', accepted⟩ := apply_accepts clock positive spared found payable
              (min_le_left _ _)
            rw [accepted] at made
            cases made
          | some failure' => simpa [DepositDb.apply, spared] using made
        exact ⟨[], rfl, by simp, .inr ⟨failure, _, _, rfl, rfl, faulty⟩⟩
      | ok db' =>
        obtain ⟨spared, contracts, a, b, found', invoices, same, paid⟩ := apply_ok made
        rw [found] at found'
        cases found'
        have kept : ∀ r ∈ rest, db'.invoices.find r.1 = some r.2 ∧
            r.2.invoice.status.payable = true ∧ r.2.invoice.contractId = some id := by
          intro r mem
          obtain ⟨stored, rest⟩ := others r mem
          refine ⟨?_, rest⟩
          have apart : r.1 ≠ row.1 := fun same => fresh (List.mem_map.mpr ⟨r, mem, same⟩)
          rw [invoices, Table.find_modify_ne _ apart, stored]
        obtain ⟨done, hcontracts, sums, outcome⟩ := ih (funds - min row.2.pending funds)
          (applied + min row.2.pending funds) kept distinct
        refine ⟨(row.1, min row.2.pending funds) :: done, hcontracts.trans contracts,
          fun other => ?_, ?_⟩
        · rw [sums, apply_fromDeposit found invoices same paid, contract]
          by_cases own : id = other <;> simp [own, add_assoc]
        · rcases outcome with ⟨ok, all, spare⟩ | ⟨failure, p, more, failed, planned, faulty⟩
          · refine .inl ⟨?_, by rw [all], ?_⟩
            · simp only [appliedCents_cons, ← add_assoc]
              exact ok
            · intro p mem
              rcases List.mem_cons.mp mem with rfl | mem
              · exact spared
              · exact spare p mem
          · exact .inr ⟨failure, p, more, failed, by rw [planned, List.cons_append], faulty⟩
    · rw [dif_neg positive, if_neg positive]
      exact ih funds applied others distinct

end

/-! ### The settlement as a whole -/

def DepositsUnapplied (db : DepositDb) : Prop :=
  ∀ id c, db.contracts.find id = some c → c.depositStatus = .held →
    c.depositAppliedAmount = 0 ∧ db.fromDeposit id = 0

/-- The contract shows what has been paid from its deposit, no more is given back and applied than the
deposit, and a settlement that failed can be made again within it. -/
def DepositConserved (id : ContractId) (made : DepositDb × Outcome ℤ) : Prop :=
  ∃ c, made.1.contracts.find id = some c ∧
    c.depositAppliedAmount = made.1.fromDeposit id ∧
    c.depositReturnedAmount + made.1.fromDeposit id ≤ c.depositAmount ∧
    ∀ failure, made.2 = .error failure → ∃ clock closeUncollected input db' applied,
      settleDeposit clock noFaults closeUncollected id input made.1 = (db', .ok applied) ∧
        c.depositReturnedAmount + db'.fromDeposit id ≤ c.depositAmount

section

variable {clock : Clock} {faults : DepositFaults} {closeUncollected : Bool} {id : ContractId}
  {input : SettleDepositInput} {db claimed : DepositDb} {retained : ℤ}

theorem openInvoices_stored (db : DepositDb) (id : ContractId) :
    ∀ row ∈ db.openInvoices id, db.invoices.find row.1 = some row.2 ∧ row.2.invoice.status.payable = true ∧ row.2.invoice.contractId = some id := by
  intro row mem
  rw [DepositDb.openInvoices, List.mem_insertionSort, List.mem_filter] at mem
  obtain ⟨mem, selected⟩ := mem
  simp only [Invoice.ofContract, Bool.and_eq_true, decide_eq_true_eq] at selected
  exact ⟨Table.find_eq_some.mpr mem, selected.2, selected.1.1.1⟩

theorem openInvoices_distinct (db : DepositDb) (id : ContractId) :
    ((db.openInvoices id).map Prod.fst).Nodup := by
  refine ((List.perm_insertionSort _ _).map Prod.fst).nodup_iff.mpr ?_
  exact db.invoices.distinct.sublist (List.filter_sublist.map _)

/-- What a settlement finds and writes when it claims the deposit. -/
structure DepositClaimed (clock : Clock) (id : ContractId) (input : SettleDepositInput)
    (db claimed : DepositDb) (retained : ℤ) (c : DepositContract) : Prop where
  stored : db.contracts.find id = some c
  held : c.depositStatus = .held
  returned : 0 ≤ input.returnedAmount
  fits : toCents input.returnedAmount ≤ c.depositAmount
  written : claimed =
    { db with contracts := db.contracts.modify id (DepositContract.settled clock.now input) }
  kept : retained = c.retained input

theorem claimDeposit_ok (h : claimDeposit clock closeUncollected id input db = .ok (claimed, retained)) :
    ∃ c, DepositClaimed clock id input db claimed retained c := by
  obtain ⟨c, found, h⟩ := Outcome.bind_ok h
  obtain ⟨_, held, h⟩ := Outcome.bind_ok h
  obtain ⟨_, -, h⟩ := Outcome.bind_ok h
  obtain ⟨_, amount, h⟩ := Outcome.bind_ok h
  obtain ⟨_, -, h⟩ := Outcome.bind_ok h
  cases h
  obtain ⟨returned, fits⟩ := not_or.mp (refuseIf_ok amount)
  exact ⟨c, orFail_ok found, not_not.mp (refuseIf_ok held), not_lt.mp returned, not_lt.mp fits,
    rfl, rfl⟩

variable {c : DepositContract}

theorem settleDeposit_refused (clock : Clock) (faults : DepositFaults) (closeUncollected : Bool)
    (input : SettleDepositInput) (stored : db.contracts.find id = some c) (settled : c.depositStatus ≠ .held) :
    ∃ failure, settleDeposit clock faults closeUncollected id input db = (db, .error failure) := by
  cases made : claimDeposit clock closeUncollected id input db with
  | error failure => exact ⟨failure, by rw [settleDeposit, made]⟩
  | ok claim =>
    obtain ⟨c', claimed⟩ := claimDeposit_ok made
    rw [claimed.stored] at stored
    cases stored
    exact absurd claimed.held settled

theorem settled_not_held (now : Instant) (input : SettleDepositInput) (c : DepositContract) :
    (c.settled now input).depositStatus ≠ .held := by
  unfold DepositContract.settled
  simp only
  split <;> simp

theorem DepositClaimed.bound (h : DepositClaimed clock id input db claimed retained c) :
    0 ≤ retained ∧ column input.returnedAmount + retained ≤ c.depositAmount := by
  have rounded := column_le_toCents h.returned
  have fits := h.fits
  have kept := h.kept
  unfold DepositContract.retained at kept
  omega

/-- What applying leaves: the payments made, which are the first ones planned, and the sum written on
the contract when nothing fails. -/
structure DepositApplied (faults : DepositFaults) (id : ContractId) (retained : ℤ)
    (c : DepositContract) (db : DepositDb) (made : DepositDb × Outcome ℤ)
    (done : List (InvoiceId × ℤ)) (written : ℤ) : Prop where
  stored : made.1.contracts.find id = some { c with depositAppliedAmount := written }
  others : ∀ k, k ≠ id → made.1.contracts.find k = db.contracts.find k
  sums : ∀ k, made.1.fromDeposit k = db.fromDeposit k + if id = k then appliedCents done else 0
  first : done <+: plannedApplications (db.openInvoices id) retained
  outcome : faults.Spare (plannedApplications (db.openInvoices id) retained) ∧
      written = appliedCents done ∧ made.2 = .ok written ∨
    ¬faults.Spare (plannedApplications (db.openInvoices id) retained) ∧
      ∃ failure, made.2 = .error failure

theorem DepositApplied.fits {made : DepositDb × Outcome ℤ} {done : List (InvoiceId × ℤ)} {written : ℤ}
    (kept : 0 ≤ retained) (h : DepositApplied faults id retained c db made done written) :
    appliedCents done ≤ retained := by
  obtain ⟨rest, planned⟩ := h.first
  have whole := planned_le (db.openInvoices id) kept
  have others : 0 ≤ appliedCents rest := by
    apply appliedCents_nonneg
    intro p mem
    have mem : p ∈ plannedApplications (db.openInvoices id) retained := by simp [← planned, mem]
    exact planned_pos mem
  rw [← planned, appliedCents_append] at whole
  omega

theorem applyRetainedDeposit_made (clock : Clock) (faults : DepositFaults) (retained : ℤ)
    (stored : db.contracts.find id = some c) (unapplied : c.depositAppliedAmount = 0) :
    ∃ done written, DepositApplied faults id retained c db
      (applyRetainedDeposit clock faults id retained db) done written := by
  obtain ⟨done, contracts, sums, outcome⟩ := applyToInvoices_made clock faults retained 0
    (openInvoices_stored db id) (openInvoices_distinct db id)
  unfold applyRetainedDeposit
  cases loop : applyToInvoices clock faults (db.openInvoices id) retained 0 db with
  | mk db' result =>
    rw [loop] at contracts sums outcome
    simp only at contracts sums outcome
    have same : db'.contracts.find id = some { c with depositAppliedAmount := 0 } := by
      rw [contracts, stored, ← unapplied]
    have others : ∀ k, k ≠ id → db'.contracts.find k = db.contracts.find k := fun k _ => by
      rw [contracts]
    rcases outcome with ⟨rfl, rfl, spared⟩ | ⟨failure, p, rest, rfl, planned, faulty⟩
    · simp only [zero_add]
      split
      · rename_i some_
        cases total : faults.total with
        | some failure =>
          refine ⟨_, _, ⟨same, others, sums, List.prefix_refl _,
            .inr ⟨fun spare => ?_, failure, rfl⟩⟩⟩
          rw [spare.2] at total
          · cases total
          · rintro none_
            simp [none_] at some_
        | none =>
          refine ⟨_, _, ⟨?_, fun k other => ?_, sums, List.prefix_refl _,
            .inl ⟨⟨spared, fun _ => total⟩, rfl, rfl⟩⟩⟩
          · simp [DepositDb.setApplied, same]
          · simp [DepositDb.setApplied, Table.find_modify_ne _ other, others k other]
      · rename_i none_
        have nothing : plannedApplications (db.openInvoices id) retained = [] := by
          by_contra planned
          exact none_ (appliedCents_pos (fun p mem => planned_pos mem) planned)
        rw [nothing] at sums spared ⊢
        exact ⟨_, _, ⟨same, others, sums, by rw [nothing],
          .inl ⟨by simp [nothing, DepositFaults.Spare], rfl, rfl⟩⟩⟩
    · refine ⟨done, 0, ⟨same, others, sums, ⟨p :: rest, planned.symm⟩,
        .inr ⟨fun spare => ?_, failure, rfl⟩⟩⟩
      have := spare.1 p (by simp [planned])
      rw [faulty] at this
      cases this

/-- A settlement shows what it applied of the deposit, stays within it and can be made again after a
failure, exactly when no failure meets the payments it plans or the update after them. -/
theorem deposit_conserved (begins : DepositsUnapplied db)
    (accepted : claimDeposit clock closeUncollected id input db = .ok (claimed, retained)) :
    DepositConserved id (settleDeposit clock faults closeUncollected id input db) ↔
      (input.applyToInvoices = true →
        faults.Spare (plannedApplications (db.openInvoices id) retained)) := by
  obtain ⟨c, claim⟩ := claimDeposit_ok accepted
  obtain ⟨unapplied, nothing⟩ := begins id c claim.stored claim.held
  obtain ⟨kept, bound⟩ := claim.bound
  have stored : claimed.contracts.find id = some (c.settled clock.now input) := by
    simp [claim.written, claim.stored]
  have invoices : claimed.openInvoices id = db.openInvoices id := by
    rw [claim.written]
    rfl
  have start : claimed.fromDeposit id = 0 := by
    rw [← nothing, claim.written]
    rfl
  rw [settleDeposit, accepted]
  simp only
  by_cases apply : input.applyToInvoices = true
  · rw [if_pos apply]
    obtain ⟨done, written, made⟩ := applyRetainedDeposit_made clock faults retained stored unapplied
    rw [← invoices]
    constructor
    · rintro ⟨c', found, -, -, retry⟩ -
      rcases made.outcome with ⟨spare, -⟩ | ⟨-, failure, failed⟩
      · exact spare
      · obtain ⟨clock', close', input', db', applied, again, -⟩ := retry failure failed
        obtain ⟨failure', refused⟩ := settleDeposit_refused clock' noFaults close' input' made.stored
          (settled_not_held clock.now input c)
        rw [refused] at again
        cases again
    · intro spare
      rcases made.outcome with ⟨-, sum, ok⟩ | ⟨faulty, -⟩
      · have fits := made.fits kept
        refine ⟨_, made.stored, ?_, ?_, ?_⟩
        · rw [made.sums, start, if_pos rfl, zero_add]
          exact sum
        · rw [made.sums, start, if_pos rfl, zero_add]
          change column input.returnedAmount + _ ≤ c.depositAmount
          omega
        · intro failure failed
          rw [ok] at failed
          cases failed
      · exact absurd (spare apply) faulty
  · rw [if_neg apply]
    refine ⟨fun _ applies => absurd applies apply, fun _ => ⟨_, stored, ?_, ?_, ?_⟩⟩
    · rw [start]
      exact unapplied
    · rw [start]
      change column input.returnedAmount + 0 ≤ c.depositAmount
      omega
    · intro failure failed
      cases failed

end

/-- A contract that has ended with 300 € of deposit held and two open invoices of 100 €. -/
def heldDeposit : DepositDb where
  contracts := Table.empty.push ⟨.ended, .held, 30000, 0, 0, none, none, true⟩
  invoices := (Table.empty.push ⟨{ issuedInvoice 10000 with contractId := some 0 }, .empty⟩).push
    ⟨{ issuedInvoice 10000 with contractId := some 0 }, .empty⟩

def keepAll : SettleDepositInput := ⟨0, some "deuda pendiente", true⟩

theorem heldDeposit_unapplied : DepositsUnapplied heldDeposit := by
  intro id c found _
  have only : id = 0 ∧ c = ⟨.ended, .held, 30000, 0, 0, none, none, true⟩ := by
    rw [Table.find_eq_some] at found
    simpa [heldDeposit, Table.empty, Table.nextKey] using found
  obtain ⟨rfl, rfl⟩ := only
  exact ⟨rfl, by decide +kernel⟩

/-- The deposit pays both invoices. -/
theorem deposit_conserved_both :
    DepositConserved 0 (settleDeposit (noon 20100) noFaults false 0 keepAll heldDeposit) ∧
      (settleDeposit (noon 20100) noFaults false 0 keepAll heldDeposit).1.fromDeposit 0 = 20000 := by
  refine ⟨?_, by decide +kernel⟩
  cases accepted : claimDeposit (noon 20100) false 0 keepAll heldDeposit with
  | error failure =>
    have taken : (claimDeposit (noon 20100) false 0 keepAll heldDeposit).toOption.isSome = true := by
      decide +kernel
    rw [accepted] at taken
    cases taken
  | ok claim =>
    exact (deposit_conserved heldDeposit_unapplied accepted).mpr fun _ =>
      ⟨fun _ _ => rfl, fun _ => rfl⟩

def secondFails : DepositFaults := ⟨fun id => if id = 1 then some uniqueConstraint else none, none⟩

/-- The first payment stands, the contract does not show it, and the settlement is not made again. -/
theorem deposit_applied_unseen :
    (settleDeposit (noon 20100) secondFails false 0 keepAll heldDeposit).1.fromDeposit 0 = 10000 ∧
    ((settleDeposit (noon 20100) secondFails false 0 keepAll heldDeposit).1.contracts.find 0).map
      (·.depositAppliedAmount) = some 0 ∧
    ¬DepositConserved 0 (settleDeposit (noon 20100) secondFails false 0 keepAll heldDeposit) := by
  have paid : (settleDeposit (noon 20100) secondFails false 0 keepAll heldDeposit).1.fromDeposit 0
      = 10000 := by decide +kernel
  have shown : ((settleDeposit (noon 20100) secondFails false 0 keepAll
      heldDeposit).1.contracts.find 0).map (·.depositAppliedAmount) = some 0 := by decide +kernel
  refine ⟨paid, shown, ?_⟩
  rintro ⟨c, found, applied, -⟩
  rw [found] at shown
  rw [paid] at applied
  simp [applied] at shown

end StorageOS
