import Mathlib.Algebra.BigOperators.Pi
import StorageOS.Payments.Ledger
import StorageOS.Fiscal.VatBook

/-! The profit and loss of each facility (`ExpensesService.getProfitLoss`) and the VAT book of the same days. The
report takes every issued invoice whole, so it agrees with the book when what is replaced comes to nothing. -/

namespace StorageOS

open Grouping

inductive ProfitLossField
  | invoiced
  | collected
  | expenses
  deriving DecidableEq

structure ProfitLossRow where
  facilityId : Option FacilityId
  facilityName : String
  invoiced : ℤ
  collected : ℤ
  expenses : ℤ
  net : ℤ

structure ProfitLossTotals where
  invoiced : ℤ
  collected : ℤ
  expenses : ℤ
  net : ℤ

structure ProfitLoss where
  rows : List ProfitLossRow
  totals : ProfitLossTotals
  byCategory : List (String × ℤ)

def FiscalDb.facilityId (db : FiscalDb) (inv : Invoice) : Option FacilityId := inv.contractId.map db.facilityOf

def FiscalDb.invoicedIn (db : FiscalDb) (fromD toD : Date) : List Invoice :=
  db.invoices.filter fun inv => inv.isDated fromD toD && inv.status ∉ [.draft, .cancelled] && inv.deletedAt.isNone &&
    inv.kind = .invoice

/-- The payments of invoices that were collected from the first moment of `fromD` to the last of `toD`. -/
def FiscalDb.collectedIn (db : FiscalDb) (fromD toD : Date) : List (Invoice × Payment) :=
  db.accounts.values.flatMap fun a => (a.payments.values.filter fun p => p.status.collected &&
    p.paidAt.any (fun x => fromD * 86400000 ≤ x && x ≤ toD * 86400000 + 86399999) && a.invoice.kind = .invoice &&
    !p.methodType.nonCash).map fun p => (a.invoice, p)

def FiscalDb.expensesIn (db : FiscalDb) (fromD toD : Date) : List ExpenseRow :=
  db.expenses.filter fun ex => fromD ≤ ex.expenseDate && ex.expenseDate ≤ toD

def bump (key : Option FacilityId) (field : ProfitLossField) (v : ℤ) : Option FacilityId × (ProfitLossField → ℤ) :=
  (key, Pi.single field v)

/-- What each row that is read adds to the amounts of its facility, or to those of none. -/
def FiscalDb.bumps (db : FiscalDb) (fromD toD : Date) : List (Option FacilityId × (ProfitLossField → ℤ)) :=
  (db.invoicedIn fromD toD).map (fun inv => bump (db.facilityId inv) .invoiced inv.total) ++
    (db.collectedIn fromD toD).map (fun q => bump (db.facilityId q.1) .collected (q.2.amount - q.2.refundedAmount)) ++
    (db.expensesIn fromD toD).map fun ex => bump ex.facilityId .expenses ex.amount

def FiscalDb.facilityName (db : FiscalDb) : Option FacilityId → String
  | none => "Sin local"
  | some id => ((db.facilities.find? fun f => f.1 = id).map Prod.snd).getD "Local eliminado"

def getProfitLoss (db : FiscalDb) (fromD toD : Date) : ProfitLoss :=
  let rows := ((addAll (db.bumps fromD toD) []).map fun e =>
    { facilityId := e.1
      facilityName := db.facilityName e.1
      invoiced := e.2 .invoiced
      collected := e.2 .collected
      expenses := e.2 .expenses
      net := e.2 .invoiced - e.2 .expenses : ProfitLossRow }).insertionSort fun a b => b.net ≤ a.net
  { rows
    totals := rows.foldl (fun t r =>
      ⟨t.invoiced + r.invoiced, t.collected + r.collected, t.expenses + r.expenses, t.net + r.net⟩) ⟨0, 0, 0, 0⟩
    byCategory := (addAll ((db.expensesIn fromD toD).map fun ex => (ex.category, ex.amount)) []).insertionSort
      fun a b => b.2 ≤ a.2 }

/-! ### Agreement -/

def ProfitLossRow.amount (r : ProfitLossRow) : ProfitLossField → ℤ
  | .invoiced => r.invoiced
  | .collected => r.collected
  | .expenses => r.expenses

def ProfitLossTotals.amount (t : ProfitLossTotals) : ProfitLossField → ℤ
  | .invoiced => t.invoiced
  | .collected => t.collected
  | .expenses => t.expenses

def FiscalDb.amountIn (db : FiscalDb) (fromD toD : Date) : ProfitLossField → ℤ
  | .invoiced => ((db.invoicedIn fromD toD).map (·.total)).sum
  | .collected => ((db.collectedIn fromD toD).map fun q => q.2.amount - q.2.refundedAmount).sum
  | .expenses => ((db.expensesIn fromD toD).map (·.amount)).sum

/-- An issued invoice, neither a draft nor cancelled. -/
def Invoice.isFiscal (inv : Invoice) : Bool :=
  inv.status ∈ fiscalStatuses && inv.deletedAt.isNone && inv.kind = .invoice

def Invoice.isFiscalBy (inv : Invoice) (d : Date) : Bool := inv.isFiscal && inv.issueDate.any (· ≤ d)

def FiscalDb.isReplaced (db : FiscalDb) (d : Date) (id : InvoiceId) : Bool :=
  db.invoices.any fun inv => inv.isFiscalBy d && inv.correctionMethod = some .bySubstitution &&
    inv.rectifiesInvoiceId = some id

/-- What was invoiced by the end of `d`, of the invoices replaced by then or of the others. -/
def FiscalDb.totalBy (db : FiscalDb) (d : Date) (replaced : Bool) : ℤ :=
  (db.accounts.rows.map fun q =>
    if q.2.invoice.isFiscalBy d && db.isReplaced d q.1 == replaced then q.2.invoice.total else 0).sum

/-- What the invoices of the range replace. -/
def FiscalDb.replacedIn (db : FiscalDb) (fromD toD : Date) : ℤ :=
  ((db.invoices.filter fun inv => inv.isFiscal && inv.isDated fromD toD).map fun inv =>
    (db.substituted inv).elim 0 (·.total)).sum

/-- The report invoices what the book does, its rows add up to all that was read, and it counts an invoice that is
replaced by then only through its replacement. -/
structure ProfitLossAgrees (db : FiscalDb) (fromD toD : Date) : Prop where
  invoiced : (vatBook db fromD toD none).map (·.totals.total) = .ok (getProfitLoss db fromD toD).totals.invoiced
  rows : ∀ field, ((getProfitLoss db fromD toD).rows.map (·.amount field)).sum =
    (getProfitLoss db fromD toD).totals.amount field ∧
      (getProfitLoss db fromD toD).totals.amount field = db.amountIn fromD toD field
  once : (getProfitLoss db fromD toD).totals.invoiced = db.totalBy toD false - db.totalBy (fromD - 1) false

variable {db : FiscalDb} {fromD toD : Date}

theorem amount_foldl (rows : List ProfitLossRow) (t : ProfitLossTotals) (field : ProfitLossField) :
    (rows.foldl (fun t r =>
      ⟨t.invoiced + r.invoiced, t.collected + r.collected, t.expenses + r.expenses, t.net + r.net⟩) t).amount field =
      t.amount field + (rows.map (·.amount field)).sum := by
  induction rows generalizing t with
  | nil => simp
  | cons r rows ih =>
    rw [List.foldl_cons, ih, List.map_cons, List.sum_cons, ← add_assoc]
    cases field <;> rfl

theorem sum_bump {α : Type} (rows : List α) (key : α → Option FacilityId) (added field : ProfitLossField) (v : α → ℤ) :
    ((rows.map fun r => bump (key r) added (v r)).map fun e => e.2 field).sum =
      if field = added then (rows.map v).sum else 0 := by
  rw [List.map_map]
  by_cases same : field = added
  · subst same
    simp [bump, Function.comp_def]
  · simp [bump, Function.comp_def, same]

theorem sum_amount (field : ProfitLossField) :
    ((getProfitLoss db fromD toD).rows.map (·.amount field)).sum = db.amountIn fromD toD field := by
  have all := congrFun (sum_addAll (db.bumps fromD toD) []) field
  rw [List.map_nil, List.sum_nil, zero_add, Pi.list_sum_apply, Pi.list_sum_apply, List.map_map, List.map_map] at all
  have each : ((getProfitLoss db fromD toD).rows.map (·.amount field)).sum =
      ((addAll (db.bumps fromD toD) []).map fun e => e.2 field).sum := by
    refine (((List.perm_insertionSort _ _).map _).sum_eq).trans ?_
    rw [List.map_map]
    refine congrArg List.sum (List.map_congr_left fun e _ => ?_)
    cases field <;> rfl
  rw [each]
  refine all.trans ?_
  change ((db.bumps fromD toD).map fun e => e.2 field).sum = _
  rw [FiscalDb.bumps, List.map_append, List.map_append, List.sum_append, List.sum_append, sum_bump, sum_bump, sum_bump]
  cases field <;> simp [FiscalDb.amountIn]

theorem totals_amount (field : ProfitLossField) :
    (getProfitLoss db fromD toD).totals.amount field = db.amountIn fromD toD field := by
  rw [← sum_amount]
  refine (amount_foldl _ _ _).trans ?_
  cases field <;> exact zero_add _

/-! ### Totals of invoices -/

theorem sum_invoices (p : Invoice → Bool) (w : Invoice → ℤ) :
    ((db.invoices.filter p).map w).sum =
      (db.accounts.rows.map fun q => if p q.2.invoice then w q.2.invoice else 0).sum := by
  rw [FiscalDb.invoices, Table.values, List.map_map, Table.sum_filter, List.map_map]
  rfl

theorem invoicedIn_eq :
    db.invoicedIn fromD toD = db.invoices.filter fun inv => inv.isFiscal && inv.isDated fromD toD := by
  refine List.filter_congr fun inv _ => ?_
  rw [Invoice.isFiscal, fiscalStatuses]
  cases inv.status <;> simp [Bool.and_comm, Bool.and_assoc]

/-- What the range invoices is what it adds to the invoices in force and to those replaced. -/
theorem sum_invoicedIn (order : fromD ≤ toD) :
    db.amountIn fromD toD .invoiced + db.totalBy (fromD - 1) false + db.totalBy (fromD - 1) true =
      db.totalBy toD false + db.totalBy toD true := by
  rw [FiscalDb.amountIn, invoicedIn_eq, sum_invoices]
  simp only [FiscalDb.totalBy, ← List.sum_map_add]
  refine congrArg List.sum (List.map_congr_left fun q _ => ?_)
  simp only [Invoice.isFiscalBy, Invoice.isDated]
  rcases Option.eq_none_or_eq_some q.2.invoice.issueDate with dated | ⟨d, dated⟩
  · simp [dated]
  · have before : d ≤ fromD - 1 ↔ ¬fromD ≤ d := by lia
    simp only [dated, Option.any_some, before]
    by_cases fiscal : q.2.invoice.isFiscal = true <;> by_cases late : fromD ≤ d <;> by_cases within : d ≤ toD <;>
      cases db.isReplaced toD q.1 <;> cases db.isReplaced (fromD - 1) q.1 <;> simp [fiscal, late, within] <;> lia

theorem vatBook_total {ownerId : Option OwnerId} (order : fromD ≤ toD)
    (owners : ∀ inv ∈ db.invoices, inv.ownerId = ownerId) :
    (vatBook db fromD toD ownerId).map (·.totals.total) =
      .ok (db.amountIn fromD toD .invoiced - db.replacedIn fromD toD) := by
  have read : (db.vatInvoices fromD toD ownerId).Perm
      (db.invoices.filter fun inv => inv.isFiscal && inv.isDated fromD toD) := by
    refine (List.perm_insertionSort _ _).trans (.of_eq (List.filter_congr fun inv mem => ?_))
    simp [owners inv mem, Invoice.isFiscal, Bool.and_comm]
  have passes : refuseIf (toD < fromD) (badRequest "invalid_range" "Rango de fechas no válido") = .ok () :=
    if_neg (not_lt.mpr order)
  rw [vatBook, passes]
  refine congrArg Except.ok ?_
  dsimp only
  rw [List.map_map, FiscalDb.amountIn, invoicedIn_eq, FiscalDb.replacedIn, eq_sub_iff_add_eq, (read.map _).sum_eq,
    ← List.sum_map_add]
  exact congrArg List.sum (List.map_congr_left fun inv _ => sub_add_cancel _ _)

/-- Of a tenant without owners. -/
theorem profitLoss_agrees_iff (order : fromD ≤ toD) (owners : ∀ inv ∈ db.invoices, inv.ownerId = none) :
    ProfitLossAgrees db fromD toD ↔
      db.replacedIn fromD toD = 0 ∧ db.totalBy toD true = db.totalBy (fromD - 1) true := by
  have total : (getProfitLoss db fromD toD).totals.invoiced = db.amountIn fromD toD .invoiced := totals_amount .invoiced
  have book := vatBook_total order owners
  have parts := @sum_invoicedIn db _ _ order
  constructor
  · intro agrees
    have same := Except.ok.inj (book.symm.trans agrees.invoiced)
    have once := agrees.once
    constructor <;> omega
  · rintro ⟨nothing, before⟩
    refine ⟨?_, fun field => ⟨(sum_amount field).trans (totals_amount field).symm, totals_amount field⟩, by omega⟩
    rw [book, total, nothing, sub_zero]

/-- An invoice of 100 €, replaced ten days later by one of 80 €. -/
def replacedDb : FiscalDb where
  accounts := (Table.empty.push ⟨{ issuedInvoice 10000 with status := .rectified }, .empty⟩).push
    ⟨{ issuedInvoice 8000 with
        invoiceType := .R4
        rectifiesInvoiceId := some 0
        correctionMethod := some .bySubstitution
        issueDate := some 20010 }, .empty⟩
  customers _ := ⟨.individual, none, none, none, none⟩
  facilityOf _ := 1
  expenses := []
  facilities := []

theorem profitLoss_agrees_before : ProfitLossAgrees replacedDb 20000 20009 :=
  (profitLoss_agrees_iff (by decide) (by decide)).mpr (by decide +kernel)

/-- The days of both invoices 180 €. -/
theorem profitLoss_counts_twice : ¬∀ (db : FiscalDb) (fromD toD : Date), fromD ≤ toD →
    (∀ inv ∈ db.invoices, inv.ownerId = none) → ProfitLossAgrees db fromD toD := fun all =>
  absurd (all replacedDb 20000 20010 (by decide) (by decide)).invoiced (by decide +kernel)

/-! ### Facilities -/

def FiscalDb.amountOf (db : FiscalDb) (fromD toD : Date) (key : Option FacilityId) : ProfitLossField → ℤ
  | .invoiced => (((db.invoicedIn fromD toD).filter fun inv => db.facilityId inv = key).map (·.total)).sum
  | .collected => (((db.collectedIn fromD toD).filter fun q => db.facilityId q.1 = key).map fun q =>
      q.2.amount - q.2.refundedAmount).sum
  | .expenses => (((db.expensesIn fromD toD).filter fun ex => ex.facilityId = key).map (·.amount)).sum

theorem amountAt_bump {α : Type} (rows : List α) (key : α → Option FacilityId) (added field : ProfitLossField)
    (v : α → ℤ) (k : Option FacilityId) : amountAt k (rows.map fun r => bump (key r) added (v r)) field =
      if field = added then ((rows.filter fun r => key r = k).map v).sum else 0 := by
  rw [amountAt, List.filter_map, Pi.list_sum_apply, List.map_map, ← sum_bump _ key]
  rfl

theorem amountAt_bumps (key : Option FacilityId) :
    amountAt key (db.bumps fromD toD) = db.amountOf fromD toD key := by
  funext field
  rw [FiscalDb.bumps, amountAt_append, amountAt_append, Pi.add_apply, Pi.add_apply, amountAt_bump, amountAt_bump,
    amountAt_bump]
  cases field <;> simp [FiscalDb.amountOf]

/-- Each facility of which something is read has one row, with what was read of it. -/
theorem profitLoss_rows (db : FiscalDb) (fromD toD : Date) :
    ((getProfitLoss db fromD toD).rows.map (·.facilityId)).Nodup ∧
      (∀ key, key ∈ (getProfitLoss db fromD toD).rows.map (·.facilityId) ↔
        key ∈ (db.bumps fromD toD).map Prod.fst) ∧
      ∀ r ∈ (getProfitLoss db fromD toD).rows, r.amount = db.amountOf fromD toD r.facilityId := by
  have entries : ((getProfitLoss db fromD toD).rows.map fun r => (r.facilityId, r.amount)).Perm
      (addAll (db.bumps fromD toD) []) := by
    refine ((List.perm_insertionSort _ _).map _).trans (.of_eq ?_)
    rw [List.map_map]
    refine List.map_id'' (fun e => ?_) _
    exact congrArg (e.1, ·) (funext fun field => by cases field <;> rfl)
  have keys := entries.map Prod.fst
  rw [List.map_map] at keys
  refine ⟨keys.nodup_iff.mpr nodup_keys, fun key => keys.mem_iff.trans ?_, fun r mem => ?_⟩
  · rw [mem_keys_addAll]
    exact or_iff_left List.not_mem_nil
  · rw [← (mem_addAll.mp (entries.mem_iff.mp (List.mem_map_of_mem mem))).2, amountAt_bumps]

end StorageOS
