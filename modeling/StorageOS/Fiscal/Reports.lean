import StorageOS.Fiscal.ProfitLoss

/-! The other reports of `fiscal/fiscal.service.ts`, and what they have in common with the VAT book. -/

namespace StorageOS

open Grouping

/-- The invoices that the reports read. -/
def Invoice.isReported (fromD toD : Date) (ownerId : Option OwnerId) (inv : Invoice) : Bool :=
  inv.deletedAt.isNone && inv.ownerId = ownerId && inv.status ∈ fiscalStatuses && inv.kind = .invoice &&
    inv.isDated fromD toD

/-! ### Model 303 -/

def quarterRange (year quarter : ℤ) : Date × Date :=
  let startMonth := (quarter - 1) * 3
  (Gregorian.monthStart (12 * year + startMonth), Gregorian.monthStart (12 * year + startMonth + 3) - 1)

/-- The invoices that a substitution of the range replaces, each once. -/
def FiscalDb.replaced (db : FiscalDb) (fromD toD : Date) (ownerId : Option OwnerId) : List Invoice :=
  (db.accounts.rows.filter fun q => db.invoices.any fun r => r.ownerId = ownerId &&
    r.correctionMethod = some .bySubstitution && r.deletedAt.isNone && r.status ∈ fiscalStatuses &&
      r.isDated fromD toD && r.rectifiesInvoiceId = some q.1).map (·.2.invoice)

structure Model303 where
  year : ℤ
  quarter : ℤ
  byRate : List VatGroup
  totalBase : ℤ
  totalVat : ℤ
  invoiceCount : ℕ

def model303 (db : FiscalDb) (year quarter : ℤ) (ownerId : Option OwnerId) : Outcome Model303 := do
  refuseIf (quarter < 1 ∨ 4 < quarter) (badRequest "invalid_quarter" "Trimestre 1-4")
  let (fromD, toD) := quarterRange year quarter
  let invoices := db.invoices.filter (·.isReported fromD toD ownerId)
  let items := invoices.flatMap (·.items)
  let replaced := (db.replaced fromD toD ownerId).flatMap (·.items)
  let byRate := sortedGroups (replaced.foldl (fun out item => addLine out item (-1))
    (items.foldl (fun out item => addLine out item 1) []))
  pure
    { year
      quarter
      byRate
      totalBase := (byRate.map (·.base)).sum
      totalVat := (byRate.map (·.vat)).sum
      invoiceCount := invoices.length }

/-! ### Accounting export -/

def ddmmyyyy (d : Date) : String :=
  padStart 2 (toString (Gregorian.day d)) ++ "/" ++ padStart 2 (toString (Gregorian.month d)) ++ "/" ++
    toString (Gregorian.year d)

def rectifiedStatusLabel (rectifiedBy : List Invoice) : String :=
  match rectifiedBy.find? fun r => r.correctionMethod = some .bySubstitution, rectifiedBy with
  | some substitution, _ => "Sustituida por " ++ substitution.invoiceNumber
  | none, credit :: _ => "Anulada (abono " ++ credit.invoiceNumber ++ ")"
  | none, [] => "Anulada (con rectificativa)"

/-- `STATUS_LABELS`, and the names of the states that it leaves out. -/
def FiscalDb.statusLabel (db : FiscalDb) (id : InvoiceId) (inv : Invoice) : String :=
  match inv.status with
  | .issued => "Pendiente"
  | .paid => "Pagada"
  | .overdue => "Vencida"
  | .refunded => "Reembolsada"
  | .partiallyRefunded => "Reembolsada (parcial)"
  | .rectified => rectifiedStatusLabel (db.invoices.filter fun r =>
      r.rectifiesInvoiceId = some id && r.deletedAt.isNone && r.status ∉ [.draft, .cancelled])
  | .draft => "draft"
  | .cancelled => "cancelled"

structure AccountingExportRow where
  invoiceNumber : String
  issueDate : Option String
  invoiceType : InvoiceType
  customerName : String
  customerNif : Option String
  taxRate : ℚ
  taxCategory : String
  base : ℤ
  vat : ℤ
  lineTotal : ℤ
  invoiceTotal : ℤ
  status : String

def FiscalDb.exportRows (db : FiscalDb) (q : InvoiceId × Account) : List AccountingExportRow :=
  let inv := q.2.invoice
  let customer := inv.customerId.map db.customers
  (sortedGroups (netByRate db inv)).map fun v =>
    { invoiceNumber := inv.invoiceNumber
      issueDate := inv.issueDate.map ddmmyyyy
      invoiceType := inv.invoiceType
      customerName := customerName customer
      customerNif := customer.bind (·.documentNumber)
      taxRate := v.rate
      taxCategory := v.taxCategory
      base := v.base
      vat := v.vat
      lineTotal := v.base + v.vat
      invoiceTotal := db.net Invoice.total inv
      status := db.statusLabel q.1 inv }

def FiscalDb.exported (db : FiscalDb) (fromD toD : Date) (ownerId : Option OwnerId) : List (InvoiceId × Account) :=
  (db.accounts.rows.filter (·.2.invoice.isReported fromD toD ownerId)).insertionSort fun a b =>
    a.2.invoice.issueDate.getD 0 < b.2.invoice.issueDate.getD 0 ∨
      a.2.invoice.issueDate.getD 0 = b.2.invoice.issueDate.getD 0 ∧
        a.2.invoice.invoiceNumber ≤ b.2.invoice.invoiceNumber

def accountingExport (db : FiscalDb) (fromD toD : Date) (ownerId : Option OwnerId) :
    Outcome (List AccountingExportRow) := do
  refuseIf (toD < fromD) (badRequest "invalid_range" "Rango de fechas no válido")
  pure ((db.exported fromD toD ownerId).flatMap db.exportRows)

/-! ### Agreement -/

/-- The invoice that this one replaces. -/
def Invoice.substitutes (inv : Invoice) : Option InvoiceId :=
  if inv.correctionMethod = some .bySubstitution then inv.rectifiesInvoiceId else none

/-- No two issued invoices replace the same one. -/
abbrev FiscalDb.ReplacedOnce (db : FiscalDb) : Prop :=
  ((db.invoices.filter Invoice.isFiscal).filterMap Invoice.substitutes).Nodup

/-- What an issued invoice replaces was issued no later than it. -/
abbrev FiscalDb.ReplacesEarlier (db : FiscalDb) : Prop := ∀ inv ∈ db.invoices, inv.isFiscal = true →
  ((db.substituted inv).all fun sub => inv.issueDate.all sub.isFiscalBy) = true

def VatGroup.entry (g : VatGroup) : (ℚ × String) × (ℤ × ℤ) := ((g.rate, g.taxCategory), g.base, g.vat)

def AccountingExportRow.entry (r : AccountingExportRow) : (ℚ × String) × (ℤ × ℤ) :=
  ((r.taxRate, r.taxCategory), r.base, r.vat)

/-- The rows of each invoice add up to its total, and those of all invoices to the VAT book, also of each rate. -/
def ExportAgrees (db : FiscalDb) (fromD toD : Date) (ownerId : Option OwnerId) : Prop := ∃ rows b,
  accountingExport db fromD toD ownerId = .ok rows ∧ rows = (db.exported fromD toD ownerId).flatMap db.exportRows ∧
    (∀ q ∈ db.exported fromD toD ownerId, ∀ r ∈ db.exportRows q,
      ((db.exportRows q).map (·.lineTotal)).sum = r.invoiceTotal) ∧
    vatBook db fromD toD ownerId = .ok b ∧ (rows.map (·.lineTotal)).sum = b.totals.total ∧
      ∀ key, amountAt key (rows.map AccountingExportRow.entry) = amountAt key (b.byRate.map VatGroup.entry)

variable {db : FiscalDb} {ownerId : Option OwnerId} {fromD toD : Date}

/-! ### The invoices that are replaced -/

theorem substituted_eq (inv : Invoice) :
    db.substituted inv = ((inv.substitutes.bind fun id => (db.accounts.find id).map (id, ·)).map (·.2.invoice)) := by
  rw [FiscalDb.substituted, Invoice.substitutes]
  split
  · cases inv.rectifiesInvoiceId with
    | none => rfl
    | some id => cases h : db.accounts.find id <;> simp [h]
  · rfl

/-- Those replaced by some of the issued invoices, each once. -/
theorem replaced_perm (once : db.ReplacedOnce) {p : Invoice → Bool}
    (fiscal : ∀ inv, p inv = true → inv.isFiscal = true) :
    ((db.invoices.filter p).filterMap db.substituted).Perm ((db.accounts.rows.filter fun q =>
      db.invoices.any fun r => p r && decide (r.substitutes = some q.1)).map (·.2.invoice)) := by
  let ids := (db.invoices.filter p).filterMap Invoice.substitutes
  let chosen := ids.filterMap fun id => (db.accounts.find id).map (id, ·)
  have distinctIds : ids.Nodup := by
    refine List.Nodup.sublist (List.Sublist.filterMap _ ?_) once
    exact List.monotone_filter_right _ fun inv => fiscal inv
  have distinct : chosen.Nodup := by
    refine distinctIds.filterMap fun a a' b left right => ?_
    simp only [Option.mem_def, Option.map_eq_some_iff] at left right
    obtain ⟨_, -, rfl⟩ := left
    obtain ⟨_, -, same⟩ := right
    exact (congrArg Prod.fst same).symm
  have all : (db.invoices.filter p).filterMap db.substituted = chosen.map (·.2.invoice) := by
    rw [List.map_filterMap, List.filterMap_filterMap]
    refine List.filterMap_congr fun inv _ => (substituted_eq inv).trans ?_
    cases inv.substitutes <;> rfl
  rw [all]
  refine List.Perm.map _ ((List.perm_ext_iff_of_nodup distinct (db.accounts.distinct.of_map.filter _)).mpr fun q => ?_)
  simp only [chosen, ids, List.mem_filterMap, List.mem_filter, List.any_eq_true, Bool.and_eq_true, decide_eq_true_eq,
    Option.map_eq_some_iff]
  constructor
  · rintro ⟨id, ⟨inv, ⟨mem, fits⟩, sub⟩, a, found, rfl⟩
    exact ⟨Table.mem_of_find found, inv, mem, fits, sub⟩
  · rintro ⟨mem, inv, there, fits, sub⟩
    exact ⟨q.1, ⟨inv, ⟨there, fits⟩, sub⟩, q.2, Table.find_of_mem mem, rfl⟩

theorem substitutes_iff {inv : Invoice} {id : InvoiceId} : inv.substitutes = some id ↔
    inv.correctionMethod = some .bySubstitution ∧ inv.rectifiesInvoiceId = some id := by
  rw [Invoice.substitutes]
  split <;> simp_all

variable (invoices : List Invoice) (f : Invoice → Option Invoice)

theorem sum_filterMap (w : Invoice → ℤ) :
    ((invoices.filterMap f).map w).sum = (invoices.map fun inv => (f inv).elim 0 w).sum := by
  induction invoices with
  | nil => rfl
  | cons inv rest ih => cases found : f inv <;> simp [found, ih]

theorem flatMap_filterMap (g : Invoice → VatGroups) :
    (invoices.filterMap f).flatMap g = invoices.flatMap fun inv => (f inv).elim [] g := by
  induction invoices with
  | nil => rfl
  | cons inv rest ih => cases found : f inv <;> simp [found, ih]

variable (once : db.ReplacedOnce) (before : db.ReplacesEarlier)
include before

/-- An invoice that is replaced by the end of a day was issued by then. -/
theorem fiscal_of_replaced {q : InvoiceId × Account} {d : Date} (mem : q ∈ db.accounts.rows)
    (replaced : db.isReplaced d q.1 = true) : q.2.invoice.isFiscalBy d = true := by
  obtain ⟨inv, there, replaces⟩ := List.any_eq_true.mp replaced
  simp only [Invoice.isFiscalBy, Bool.and_eq_true, decide_eq_true_eq] at replaces
  obtain ⟨⟨⟨fiscal, dated⟩, method⟩, id⟩ := replaces
  obtain ⟨day, issued, le⟩ := (Option.any_eq_true _ _).mp dated
  have sub : db.substituted inv = some q.2.invoice := by
    rw [FiscalDb.substituted, if_pos method, id]
    exact congrArg (Option.map _) (Table.find_of_mem mem)
  have earlier := before inv there fiscal
  rw [sub, issued, Option.all_some, Option.all_some] at earlier
  simp only [Invoice.isFiscalBy, Bool.and_eq_true] at earlier ⊢
  obtain ⟨day', issued', le'⟩ := (Option.any_eq_true _ _).mp earlier.2
  exact ⟨earlier.1, (Option.any_eq_true _ _).mpr ⟨day', issued', decide_eq_true
    ((of_decide_eq_true le').trans (of_decide_eq_true le))⟩⟩

include once

theorem totalBy_replaced (d : Date) : db.totalBy d true =
    ((db.invoices.filter (·.isFiscalBy d)).map fun inv => (db.substituted inv).elim 0 (·.total)).sum := by
  have fiscal : ∀ inv : Invoice, inv.isFiscalBy d = true → inv.isFiscal = true := fun inv h =>
    (Bool.and_eq_true _ _ ▸ h : _ ∧ _).1
  rw [← sum_filterMap, ((replaced_perm once fiscal).map _).sum_eq, List.map_map, Table.sum_filter, FiscalDb.totalBy]
  refine congrArg List.sum (List.map_congr_left fun q mem => ?_)
  have same : (db.invoices.any fun r => r.isFiscalBy d && decide (r.substitutes = some q.1)) = db.isReplaced d q.1 := by
    simp only [FiscalDb.isReplaced, substitutes_iff, Bool.decide_and, Bool.and_assoc]
  rw [same]
  cases replaced : db.isReplaced d q.1
  · simp
  · simp [fiscal_of_replaced before mem replaced]

/-- A replaced invoice counts only through the one that replaces it, from its date on. -/
theorem vatBook_counts_once (owner : ∀ inv ∈ db.invoices, inv.ownerId = ownerId) (order : fromD ≤ toD) :
    (vatBook db fromD toD ownerId).map (·.totals.total) =
      .ok (db.totalBy toD false - db.totalBy (fromD - 1) false) := by
  have parts := @sum_invoicedIn db _ _ order
  have replaced : db.replacedIn fromD toD + db.totalBy (fromD - 1) true = db.totalBy toD true := by
    rw [totalBy_replaced once before, totalBy_replaced once before, FiscalDb.replacedIn, sum_invoices, sum_invoices,
      sum_invoices, ← List.sum_map_add]
    refine congrArg List.sum (List.map_congr_left fun q _ => ?_)
    simp only [Invoice.isFiscalBy, Invoice.isDated]
    rcases Option.eq_none_or_eq_some q.2.invoice.issueDate with dated | ⟨d, dated⟩
    · simp [dated]
    · have earlier : d ≤ fromD - 1 ↔ ¬fromD ≤ d := by lia
      simp only [dated, Option.any_some, earlier]
      by_cases late : fromD ≤ d <;> by_cases within : d ≤ toD <;> simp [late, within]
      lia
  rw [vatBook_total order owner]
  exact congrArg Except.ok (by omega)

omit once before

/-! ### Rates -/

def Invoice.entries (inv : Invoice) (sign : ℤ) : VatGroups :=
  inv.items.map fun item =>
    ((item.taxRate, item.taxCategory), (sign * (item.total - item.taxAmount), sign * item.taxAmount))

/-- The lines of the invoice, and against them those of the one it replaces. -/
def FiscalDb.lines (db : FiscalDb) (inv : Invoice) : VatGroups :=
  inv.entries 1 ++ (db.substituted inv).elim [] (·.entries (-1))

theorem foldl_addLine (sign : ℤ) (out : VatGroups) :
    (invoices.flatMap (·.items)).foldl (fun out item => addLine out item sign) out =
      addAll (invoices.flatMap (·.entries sign)) out := by
  simp only [Invoice.entries]
  rw [addAll, ← List.map_flatMap, List.foldl_map]
  rfl

theorem netByRate_eq (inv : Invoice) : netByRate db inv = addAll (db.lines inv) [] := by
  have one := fun (inv : Invoice) sign out => foldl_addLine [inv] sign out
  simp only [List.flatMap_singleton] at one
  rw [netByRate, FiscalDb.lines, addAll, List.foldl_append]
  cases db.substituted inv with
  | none => exact one inv 1 []
  | some sub =>
    dsimp only [Option.elim_some]
    rw [one, one]
    rfl

theorem sortedGroups_entries (groups : VatGroups) : ((sortedGroups groups).map VatGroup.entry).Perm groups :=
  ((List.perm_insertionSort _ _).map _).trans (.of_eq (by rw [List.map_map]; exact List.map_id _))

theorem sortedGroups_perm {groups groups' : VatGroups} (perm : groups.Perm groups') :
    (sortedGroups groups).Perm (sortedGroups groups') :=
  (List.perm_insertionSort _ _).trans ((perm.map _).trans (List.perm_insertionSort _ _).symm)

theorem vatInvoices_perm :
    (db.vatInvoices fromD toD ownerId).Perm (db.invoices.filter (·.isReported fromD toD ownerId)) :=
  List.perm_insertionSort _ _

/-- The declaration of a quarter has the groups of its VAT book. -/
theorem model303_agrees (once : db.ReplacedOnce)
    (kind : ∀ inv ∈ db.invoices, inv.correctionMethod = some .bySubstitution → inv.kind = .invoice) (year : ℤ)
    {quarter : ℤ} (first : 1 ≤ quarter) (last : quarter ≤ 4) : ∃ m b, model303 db year quarter ownerId = .ok m ∧
      vatBook db (quarterRange year quarter).1 (quarterRange year quarter).2 ownerId = .ok b ∧
        m.invoiceCount = b.rows.length ∧ m.byRate.Perm b.byRate := by
  have order : ¬(quarterRange year quarter).2 < (quarterRange year quarter).1 := by
    have := (Gregorian.monthStart_lt_iff (j := 12 * year + (quarter - 1) * 3)
      (k := 12 * year + (quarter - 1) * 3 + 3)).mpr (by omega)
    simp only [quarterRange]
    lia
  set fromD := (quarterRange year quarter).1
  set toD := (quarterRange year quarter).2
  refine ⟨_, _, by rw [model303, refuseIf, if_neg (by omega)]; rfl, by rw [vatBook, refuseIf, if_neg order]; rfl,
    vatInvoices_perm.length_eq.symm.trans (List.length_map _).symm, ?_⟩
  have read : ((db.invoices.filter (·.isReported fromD toD ownerId)).filterMap db.substituted).Perm
      (db.replaced fromD toD ownerId) := by
    refine (replaced_perm once fun inv reported => ?_).trans (.of_eq (congrArg _ (List.filter_congr fun q _ => ?_)))
    · simp only [Invoice.isReported, Bool.and_eq_true] at reported
      simp [Invoice.isFiscal, reported]
    · refine Bool.eq_iff_iff.mpr ?_
      simp only [List.any_eq_true, Bool.and_eq_true, decide_eq_true_eq, Invoice.isReported, substitutes_iff]
      refine exists_congr fun inv => and_congr_right fun mem => ?_
      have := kind inv mem
      tauto
  dsimp only
  rw [foldl_addLine, foldl_addLine]
  change (sortedGroups (List.foldl _ (List.foldl _ _ _) _)).Perm _
  rw [← List.foldl_append]
  have split : (db.invoices.filter (·.isReported fromD toD ownerId)).flatMap (·.entries 1) ++
      (db.replaced fromD toD ownerId).flatMap (·.entries (-1)) |>.Perm
        ((db.vatInvoices fromD toD ownerId).flatMap db.lines) := by
    refine ((read.flatMap_right _).append_left _).symm.trans ?_
    rw [flatMap_filterMap]
    exact (List.flatMap_append_perm _ _ _).trans (vatInvoices_perm.flatMap_right _).symm
  refine sortedGroups_perm ((addAll_congr split).trans ?_)
  rw [funext netByRate_eq]
  exact (addAll_flatMap _ _).symm

/-! ### Accounting export -/

theorem sum_lineTotals (groups : VatGroups) : ((sortedGroups groups).map fun g => g.base + g.vat).sum =
    (groups.map fun e => e.2.1 + e.2.2).sum := by
  rw [← ((sortedGroups_entries groups).map _).sum_eq, List.map_map]
  rfl

theorem sum_parts (groups : VatGroups) : (groups.map fun e => e.2.1 + e.2.2).sum =
    (groups.map Prod.snd).sum.1 + (groups.map Prod.snd).sum.2 := by
  induction groups with
  | nil => rfl
  | cons e rest ih =>
    simp only [List.map_cons, List.sum_cons, ih, Prod.fst_add, Prod.snd_add]
    exact add_add_add_comm _ _ _ _

theorem exported_perm :
    ((db.exported fromD toD ownerId).map (·.2.invoice)).Perm (db.vatInvoices fromD toD ownerId) := by
  refine ((List.perm_insertionSort _ _).map _).trans (.trans (.of_eq ?_) vatInvoices_perm.symm)
  rw [FiscalDb.invoices, Table.values, List.map_map, List.filter_map]
  rfl

variable (total : ∀ inv ∈ db.invoices, inv.total = (inv.items.map (·.total)).sum)
include total

theorem lineTotals_sum {q : InvoiceId × Account}
    (mem : q ∈ db.accounts.rows) : ((db.exportRows q).map (·.lineTotal)).sum = db.net Invoice.total q.2.invoice := by
  have own : ∀ inv ∈ db.invoices, ∀ sign, ((inv.entries sign).map fun e => e.2.1 + e.2.2).sum = sign * inv.total := by
    intro inv there sign
    rw [total inv there, Invoice.entries, List.map_map]
    induction inv.items with
    | nil => simp
    | cons item rest ih =>
      rw [List.map_cons, List.sum_cons, ih, List.map_cons, List.sum_cons, Function.comp_apply]
      ring
  have there : q.2.invoice ∈ db.invoices := List.mem_map_of_mem (List.mem_map_of_mem mem)
  rw [FiscalDb.exportRows, List.map_map]
  refine (sum_lineTotals _).trans ?_
  rw [netByRate_eq, sum_parts, sum_addAll, List.map_nil, List.sum_nil, zero_add, ← sum_parts, FiscalDb.lines,
    List.map_append, List.sum_append, own _ there, FiscalDb.net, one_mul, sub_eq_add_neg]
  refine congrArg _ ?_
  cases sub : db.substituted q.2.invoice with
  | none => rfl
  | some old =>
    have known : old ∈ db.invoices := by
      rw [FiscalDb.substituted] at sub
      split at sub
      · obtain ⟨a, read, rfl⟩ := Option.map_eq_some_iff.mp sub
        obtain ⟨id, -, found⟩ := Option.bind_eq_some_iff.mp read
        exact List.mem_map_of_mem (Table.mem_values_of_find found)
      · cases sub
    exact (own old known (-1)).trans (neg_one_mul _)

theorem accountingExport_agrees (order : fromD ≤ toD) : ExportAgrees db fromD toD ownerId := by
  have lines : ∀ q ∈ db.exported fromD toD ownerId,
      ((db.exportRows q).map (·.lineTotal)).sum = db.net Invoice.total q.2.invoice := fun q mem =>
    lineTotals_sum total (List.mem_of_mem_filter ((List.perm_insertionSort _ _).mem_iff.mp mem))
  refine ⟨_, _, by rw [accountingExport, refuseIf, if_neg (not_lt.mpr order)]; rfl, rfl, fun q mem r made => ?_,
    by rw [vatBook, refuseIf, if_neg (not_lt.mpr order)]; rfl, ?_, fun key => ?_⟩
  · obtain ⟨_, -, rfl⟩ := List.mem_map.mp made
    exact lines q mem
  · dsimp only
    rw [List.map_flatMap, List.flatMap, List.sum_flatten, List.map_map, List.map_map (g := VatBookRow.total)]
    refine Eq.trans ?_ (exported_perm.map (db.net Invoice.total)).sum_eq
    rw [List.map_map]
    exact congrArg List.sum (List.map_congr_left lines)
  · have each : ∀ q : InvoiceId × Account, amountAt key ((db.exportRows q).map AccountingExportRow.entry) =
        amountAt key (netByRate db q.2.invoice) := fun q => by
      refine Eq.trans ?_ (amountAt_perm (sortedGroups_entries _))
      rw [FiscalDb.exportRows, List.map_map]
      rfl
    rw [amountAt_perm (sortedGroups_entries _), List.map_flatMap, amountAt_flatMap, amountAt_addAll, amountAt_flatMap]
    simp only [each]
    refine Eq.trans ?_ ((exported_perm.map fun inv => amountAt key (netByRate db inv)).sum_eq.trans (add_zero _).symm)
    rw [List.map_map]
    rfl

omit total

/-- The invoices of `replacedDb`, each with a line. -/
def replacedLines : FiscalDb :=
  { replacedDb with
    accounts := replacedDb.accounts.view fun a => { a with
      invoice.items := [⟨"Renta", 1, euros a.invoice.total, 0, "E1", 0, a.invoice.total, none, 0⟩] } }

theorem replacedLines_once : replacedLines.ReplacedOnce := by decide +kernel

theorem model303_agrees_october : ∃ m b, model303 replacedLines 2024 4 none = .ok m ∧
    vatBook replacedLines (quarterRange 2024 4).1 (quarterRange 2024 4).2 none = .ok b ∧
      m.invoiceCount = b.rows.length ∧ m.byRate.Perm b.byRate :=
  model303_agrees replacedLines_once (by decide +kernel) 2024 (by decide) (by decide)

theorem accountingExport_agrees_october : ExportAgrees replacedLines 20000 20010 none :=
  accountingExport_agrees (by decide +kernel) (by decide)

/-- 80 € of the 180 € that were issued. -/
theorem vatBook_counts_once_october : (vatBook replacedLines 20000 20010 none).map (·.totals.total) = .ok 8000 :=
  (vatBook_counts_once replacedLines_once (by decide +kernel) (by decide +kernel) (by decide)).trans (by decide +kernel)

end StorageOS
