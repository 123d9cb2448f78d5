import StorageOS.Products.Stock

/-! The stock of every row is what there was and what its movements record, and the goods of a sale come back once if
it is cancelled, in the runs whose writes find what was read. No quantity is negative in any run. -/

namespace StorageOS

open Transition Processes

variable {shop : Shop} {db db' : StockDb} {call : StockCall} {rest : Option StockCall}
  {input : StockInput} {stock stock' : Table StockPlace ℤ} {place p : StockPlace} {quantity : ℤ}
  {saleId k : ProductSaleId} {sale : ProductSale} {items : List ProductSaleItem}
  {facilityId : FacilityId}

/-! ### Rows -/

/-- The quantity in a place, where a row that does not exist holds nothing. -/
def inStock (stock : Table StockPlace ℤ) (place : StockPlace) : ℤ := (stock.find place).getD 0

def NonNegative (stock : Table StockPlace ℤ) : Prop :=
  ∀ place quantity, stock.find place = some quantity → 0 ≤ quantity

def movedAt (place : StockPlace) (movements : List StockMovement) : ℤ :=
  ((movements.filter fun m => m.place = place).map (·.delta)).sum

@[simp] theorem movedAt_nil (place : StockPlace) : movedAt place [] = 0 := rfl

@[simp] theorem movedAt_append (place : StockPlace) (before after : List StockMovement) :
    movedAt place (before ++ after) = movedAt place before + movedAt place after := by
  simp [movedAt]

@[simp] theorem movedAt_cons (place : StockPlace) (m : StockMovement) (rest : List StockMovement) :
    movedAt place (m :: rest) = (if m.place = place then m.delta else 0) + movedAt place rest := by
  by_cases own : m.place = place <;> simp [movedAt, own]

theorem inStock_modify (found : stock.find place = some quantity) (f : ℤ → ℤ) :
    inStock (stock.modify place f) p = if place = p then f quantity else inStock stock p := by
  rw [inStock, Table.find_modify]
  by_cases own : place = p
  · subst own
    simp [found]
  · rw [if_neg (Ne.symm own), if_neg own]
    rfl

theorem inStock_upsert (create : ℤ) (f : ℤ → ℤ) :
    inStock (stock.upsert place create f) p =
      if place = p then (stock.find place).elim create f else inStock stock p := by
  rw [inStock, Table.find_upsert]
  by_cases own : place = p
  · subst own
    simp
  · rw [if_neg (Ne.symm own), if_neg own]
    rfl

theorem inStock_decrementInTx (h : decrementInTx stock place quantity = some stock') :
    inStock stock' p = inStock stock p + if place = p then -quantity else 0 := by
  unfold decrementInTx at h
  split at h
  · rename_i enough
    cases h
    obtain ⟨q, found, -⟩ := (Option.any_eq_true _ _).mp enough
    rw [inStock_modify found]
    split
    · rename_i own
      subst own
      rw [inStock, found]
      exact sub_eq_add_neg q quantity
    · rw [add_zero]
  · cases h

theorem inStock_restoreInTx :
    inStock (restoreInTx stock place quantity) p =
      inStock stock p + if place = p then quantity else 0 := by
  rw [restoreInTx, inStock_upsert]
  split
  · rename_i own
    subst own
    rw [inStock]
    cases stock.find place <;> simp
  · rw [add_zero]

theorem NonNegative.decrementInTx (nonneg : NonNegative stock)
    (h : decrementInTx stock place quantity = some stock') : NonNegative stock' := by
  unfold StorageOS.decrementInTx at h
  split at h
  · rename_i enough
    cases h
    obtain ⟨q, found, covered⟩ := (Option.any_eq_true _ _).mp enough
    intro place' q' found'
    rcases Table.find_modify_cases found' with ⟨-, same⟩ | ⟨rfl, q'', there, rfl⟩
    · exact nonneg place' q' same
    · rw [found] at there
      cases there
      exact sub_nonneg.mpr (of_decide_eq_true covered)
  · cases h

theorem NonNegative.upsert {create : ℤ} {f : ℤ → ℤ} (nonneg : NonNegative stock)
    (created : 0 ≤ create) (updated : ∀ q, 0 ≤ q → 0 ≤ f q) :
    NonNegative (stock.upsert place create f) := by
  intro place' q found
  rw [Table.find_upsert] at found
  split at found
  · cases found
    cases there : stock.find place with
    | none => exact created
    | some q => exact updated q (nonneg place q there)
  · exact nonneg place' q found

theorem NonNegative.restoreInTx (nonneg : NonNegative stock) (more : 0 ≤ quantity) :
    NonNegative (restoreInTx stock place quantity) :=
  nonneg.upsert more fun _ positive => add_nonneg positive more

/-! ### Lines -/

theorem inStock_decrementItems (h : decrementItems sale.facilityId stock sale.items = some stock') :
    inStock stock' p = inStock stock p + movedAt p (saleMovements saleId sale) := by
  rw [saleMovements]
  generalize sale.items = items at h
  induction items generalizing stock with
  | nil =>
    cases h
    simp
  | cons item items ih =>
    obtain ⟨between, taken, others⟩ := Option.bind_eq_some_iff.mp h
    rw [ih others, inStock_decrementInTx taken, List.map_cons, movedAt_cons, add_assoc]

theorem NonNegative.decrementItems (nonneg : NonNegative stock)
    (h : decrementItems facilityId stock items = some stock') : NonNegative stock' := by
  induction items generalizing stock with
  | nil =>
    cases h
    exact nonneg
  | cons item items ih =>
    obtain ⟨between, taken, others⟩ := Option.bind_eq_some_iff.mp h
    exact ih (nonneg.decrementInTx taken) others

theorem inStock_restoreItems :
    inStock (restoreItems sale.facilityId stock sale.items) p =
      inStock stock p + movedAt p (returnMovements saleId sale) := by
  rw [returnMovements]
  generalize sale.items = items
  induction items generalizing stock with
  | nil => simp [restoreItems]
  | cons item items ih =>
    rw [restoreItems, ih, inStock_restoreInTx, List.map_cons, movedAt_cons, add_assoc]

theorem NonNegative.restoreItems (nonneg : NonNegative stock) :
    NonNegative (restoreItems facilityId stock items) := by
  induction items generalizing stock with
  | nil => exact nonneg
  | cons item items ih => exact ih (nonneg.restoreInTx (Int.natCast_nonneg _))

/-! ### Steps -/

inductive StockMove (db : StockDb) : StockCall → StockDb → Option StockCall → Prop
  | sells {facilityId : FacilityId} {customerId : Option CustomerId} {inputs : List SaleItemInput}
      {paymentMethod : SalePaymentMethod} {sale : ProductSale} {stock : Table StockPlace ℤ}
      (status : sale.status = .pending)
      (taken : decrementItems sale.facilityId db.stock sale.items = some stock) :
      StockMove db (.selling facilityId customerId inputs paymentMethod)
        { stock
          movements := db.movements ++ saleMovements db.sales.nextKey sale
          sales := db.sales.push sale }
        (some (.invoicing db.sales.nextKey paymentMethod))
  | invoices {saleId : ProductSaleId} {paymentMethod : SalePaymentMethod} {rest : Option StockCall}
      (invoiceId : InvoiceId)
      (next : rest = none ∨ rest = some (.paying saleId)) :
      StockMove db (.invoicing saleId paymentMethod)
        { db with
          sales := db.sales.modify saleId fun sale => { sale with invoiceId := some invoiceId } } rest
  | pays {saleId : ProductSaleId} : StockMove db (.paying saleId)
      { db with sales := db.sales.modify saleId fun sale => { sale with status := .paid } } none
  | settles {invoiceId : InvoiceId} : StockMove db (.settling invoiceId)
      { db with
        sales := db.sales.updateMany
          (fun row => row.2.invoiceId = some invoiceId && row.2.status = .pending)
          fun sale => { sale with status := .paid } } none
  | cancels {saleId : ProductSaleId} {existing : ProductSale} : StockMove db (.cancelling saleId existing)
      (cancelSale db saleId existing) none
  | adjusts {place : StockPlace} {delta : ℤ} {db' : StockDb} (changed : adjust db place delta = some db') :
      StockMove db (.adjusting place delta) db' none
  | sets {place : StockPlace} {quantity : ℕ} {before : ℤ} : StockMove db (.setting place quantity before)
      (setStock db place quantity before) none

theorem nextStock_move (h : nextStock shop db call input = some (db', rest)) :
    (db' = db ∧ rest = none) ∨ (input ≠ .fail ∧ StockMove db call db' rest) := by
  cases input with
  | fail =>
    have gone : nextStock shop db call .fail = some (db, none) := by cases call <;> rfl
    rw [gone] at h
    cases h
    exact .inl ⟨rfl, rfl⟩
  | invoiced invoiceId =>
    cases call with
    | invoicing saleId paymentMethod =>
      rw [nextStock] at h
      split at h
      · cases h
      · cases h
        refine .inr ⟨StockInput.noConfusion, .invoices invoiceId ?_⟩
        split
        · exact .inl rfl
        · exact .inr rfl
    | _ => cases h
  | proceed =>
    refine .inr ⟨StockInput.noConfusion, ?_⟩
    cases call with
    | selling facilityId customerId inputs paymentMethod =>
      obtain ⟨sold, made, same⟩ := Option.map_eq_some_iff.mp h
      cases same
      unfold sell at made
      split at made
      · obtain ⟨items, -, made⟩ := Option.bind_eq_some_iff.mp made
        dsimp only at made
        split at made
        · cases made
        · obtain ⟨stock, taken, rfl⟩ := Option.map_eq_some_iff.mp made
          exact .sells rfl taken
      · cases made
    | invoicing => cases h
    | paying =>
      cases h
      exact .pays
    | settling =>
      cases h
      exact .settles
    | cancelling =>
      cases h
      exact .cancels
    | adjusting place delta =>
      obtain ⟨changed, made, same⟩ := Option.map_eq_some_iff.mp h
      cases same
      exact .adjusts made
    | setting =>
      cases h
      exact .sets

/-- An absolute quantity is written where the row is as it was read, and a sale that is cancelled or
marked as paid is not cancelled. -/
def StockCall.inTurn (db : StockDb) : StockCall → Bool
  | .setting place _ before => inStock db.stock place = before
  | .cancelling saleId _ | .paying saleId => (db.sales.find saleId).all (·.status ≠ .cancelled)
  | .selling .. | .invoicing .. | .settling _ | .adjusting .. => true

def stockInTurn (db : StockDb) (call : StockCall) : StockInput → Bool
  | .fail => true
  | .proceed | .invoiced _ => call.inTurn db

theorem StockCall.inTurn_of (fits : stockInTurn db call input = true) (made : input ≠ .fail) :
    call.inTurn db = true := by
  cases input with
  | fail => exact absurd rfl made
  | proceed | invoiced => exact fits

/-! ### Quantities -/

theorem StockMove.nonNegative (move : StockMove db call db' rest) (nonneg : NonNegative db.stock) :
    NonNegative db'.stock := by
  cases move with
  | sells status taken => exact nonneg.decrementItems taken
  | invoices | pays | settles => exact nonneg
  | cancels => exact nonneg.restoreItems
  | @adjusts place delta db' changed =>
    obtain ⟨stock, made, rfl⟩ := Option.map_eq_some_iff.mp changed
    split at made
    · exact nonneg.decrementInTx made
    · rename_i positive
      cases made
      exact nonneg.restoreInTx (not_lt.mp positive)
  | @sets place quantity before =>
    exact nonneg.upsert (Int.natCast_nonneg quantity) fun _ _ => Int.natCast_nonneg quantity

theorem StockMove.moved {initial : Table StockPlace ℤ} (move : StockMove db call db' rest)
    (fits : call.inTurn db = true)
    (moved : ∀ p, inStock db.stock p = inStock initial p + movedAt p db.movements) (p : StockPlace) :
    inStock db'.stock p = inStock initial p + movedAt p db'.movements := by
  have before := moved p
  cases move with
  | sells status taken =>
    rw [inStock_decrementItems taken, before, movedAt_append, add_assoc]
  | invoices | pays | settles => exact before
  | @cancels saleId existing =>
    simp only [cancelSale]
    rw [inStock_restoreItems, before, movedAt_append, add_assoc]
  | @adjusts place delta db' changed =>
    obtain ⟨stock, made, rfl⟩ := Option.map_eq_some_iff.mp changed
    simp only [movedAt_append, movedAt_cons, movedAt_nil, add_zero]
    split at made
    · rw [inStock_decrementInTx made, before, neg_neg, add_assoc]
    · cases made
      rw [inStock_restoreInTx, before, add_assoc]
  | @sets place quantity read =>
    have same : inStock db.stock place = read := of_decide_eq_true fits
    have written : inStock (setStock db place quantity read).stock p =
        if place = p then (quantity : ℤ) else inStock db.stock p := by
      rw [setStock, inStock_upsert]
      cases db.stock.find place <;> rfl
    have recorded : movedAt p (setStock db place quantity read).movements =
        movedAt p db.movements + if place = p then (quantity : ℤ) - read else 0 := by
      simp only [setStock]
      split
      · rename_i unchanged
        rw [unchanged, ite_self, add_zero]
      · simp
    rw [written, recorded]
    split
    · rename_i own
      subst own
      omega
    · rw [before, add_zero]

/-! ### Sales -/

def returnsOf (saleId : ProductSaleId) (movements : List StockMovement) : List StockMovement :=
  movements.filter fun m => m.kind = .saleCancelled && m.saleId = some saleId

theorem returnsOf_append (before after : List StockMovement) :
    returnsOf k (before ++ after) = returnsOf k before ++ returnsOf k after :=
  List.filter_append ..

theorem returnsOf_saleMovements : returnsOf k (saleMovements saleId sale) = [] := by
  simp [returnsOf, saleMovements, List.filter_map, Function.comp_def]

theorem returnsOf_returnMovements :
    returnsOf k (returnMovements saleId sale) =
      if saleId = k then returnMovements saleId sale else [] := by
  by_cases own : saleId = k <;>
    simp [returnsOf, returnMovements, List.filter_map, Function.comp_def, own]

/-- A sale is given back once if it is cancelled, and not otherwise. -/
structure ReturnedOnce (db : StockDb) : Prop where
  returned : ∀ saleId sale, db.sales.find saleId = some sale →
    returnsOf saleId db.movements =
      if sale.status = .cancelled then returnMovements saleId sale else []
  recorded : ∀ saleId, db.sales.find saleId = none → returnsOf saleId db.movements = []

def StockCall.Knows (db : StockDb) : StockCall → Prop
  | .cancelling saleId existing => ∃ sale, db.sales.find saleId = some sale ∧
    sale.facilityId = existing.facilityId ∧ sale.items = existing.items
  | _ => True

theorem returnMovements_congr {sale sale' : ProductSale} (facility : sale.facilityId = sale'.facilityId)
    (items : sale.items = sale'.items) : returnMovements k sale = returnMovements k sale' := by
  rw [returnMovements, returnMovements, facility, items]

theorem StockMove.kept (move : StockMove db call db' rest) (found : db.sales.find k = some sale) :
    ∃ sale', db'.sales.find k = some sale' ∧ sale'.facilityId = sale.facilityId ∧
      sale'.items = sale.items := by
  cases move with
  | sells => exact ⟨sale, Table.find_push_of_some found _, rfl, rfl⟩
  | @invoices saleId =>
    simp only [Table.find_modify, found]
    by_cases own : k = saleId <;> simp [own]
  | @pays saleId =>
    simp only [Table.find_modify, found]
    by_cases own : k = saleId <;> simp [own]
  | @settles invoiceId =>
    simp only [Table.find_updateMany, found, Option.map_some, Option.some.injEq, exists_eq_left']
    split <;> exact ⟨rfl, rfl⟩
  | @cancels saleId =>
    simp only [cancelSale, Table.find_modify, found]
    by_cases own : k = saleId <;> simp [own]
  | adjusts changed =>
    obtain ⟨stock, -, rfl⟩ := Option.map_eq_some_iff.mp changed
    exact ⟨sale, found, rfl, rfl⟩
  | sets => exact ⟨sale, found, rfl, rfl⟩

theorem StockCall.Knows.keep (knows : call.Knows db) (kept : ∀ k sale, db.sales.find k = some sale →
    ∃ sale', db'.sales.find k = some sale' ∧ sale'.facilityId = sale.facilityId ∧
      sale'.items = sale.items) : call.Knows db' := by
  cases call with
  | cancelling saleId existing =>
    obtain ⟨sale, found, facility, items⟩ := knows
    obtain ⟨sale', found', facility', items'⟩ := kept saleId sale found
    exact ⟨sale', found', facility'.trans facility, items'.trans items⟩
  | _ => trivial

theorem ReturnedOnce.of_same (once : ReturnedOnce db)
    (movements : ∀ k, returnsOf k db'.movements = returnsOf k db.movements)
    (sales : ∀ k sale', db'.sales.find k = some sale' → ∃ sale, db.sales.find k = some sale ∧
      returnMovements k sale' = returnMovements k sale ∧
      (sale'.status = .cancelled ↔ sale.status = .cancelled))
    (gone : ∀ k, db'.sales.find k = none → db.sales.find k = none) : ReturnedOnce db' := by
  refine ⟨fun k sale' found => ?_, fun k none => ?_⟩
  · obtain ⟨sale, before, lines, status⟩ := sales k sale' found
    rw [movements, once.returned k sale before, lines]
    by_cases cancelled : sale.status = .cancelled
    · rw [if_pos cancelled, if_pos (status.mpr cancelled)]
    · rw [if_neg cancelled, if_neg (fun after => cancelled (status.mp after))]
  · rw [movements, once.recorded k (gone k none)]

theorem ReturnedOnce.of_modify {f : ProductSale → ProductSale} (once : ReturnedOnce db)
    (lines : ∀ sale, returnMovements k (f sale) = returnMovements k sale)
    (status : ∀ sale, db.sales.find k = some sale →
      ((f sale).status = .cancelled ↔ sale.status = .cancelled)) :
    ReturnedOnce { db with sales := db.sales.modify k f } := by
  refine once.of_same (fun _ => rfl) (fun j sale' found => ?_) (fun j none => ?_)
  · rcases Table.find_modify_cases found with ⟨-, same⟩ | ⟨rfl, sale, before, rfl⟩
    · exact ⟨sale', same, rfl, .rfl⟩
    · exact ⟨sale, before, lines sale, status sale before⟩
  · rw [Table.find_modify] at none
    split at none
    · exact Option.map_eq_none_iff.mp none
    · exact none

theorem StockMove.returned (move : StockMove db call db' rest) (fits : call.inTurn db = true)
    (knows : call.Knows db) (once : ReturnedOnce db) : ReturnedOnce db' := by
  cases move with
  | @sells facilityId customerId inputs paymentMethod sale stock status taken =>
    have nothing : ∀ k, returnsOf k (db.movements ++ saleMovements db.sales.nextKey sale) =
        returnsOf k db.movements := fun k => by
      rw [returnsOf_append, returnsOf_saleMovements, List.append_nil]
    refine ⟨fun k sale' found => ?_, fun k none => ?_⟩
    · rw [nothing]
      rw [Table.find_push] at found
      split at found
      · rename_i new
        cases found
        rw [new, once.recorded _ (Table.find_nextKey _), status]
        rfl
      · exact once.returned k sale' found
    · rw [nothing]
      rw [Table.find_push] at none
      split at none
      · cases none
      · exact once.recorded k none
  | @invoices saleId _ _ invoiceId next =>
    exact once.of_modify (f := fun sale => { sale with invoiceId := some invoiceId })
      (fun _ => rfl) fun _ _ => .rfl
  | @pays saleId =>
    refine once.of_modify (f := fun sale => { sale with status := .paid }) (fun _ => rfl)
      fun sale found => ?_
    have live : sale.status ≠ .cancelled := by
      rw [StockCall.inTurn, found] at fits
      exact of_decide_eq_true fits
    exact ⟨fun paid => ProductSaleStatus.noConfusion paid, fun cancelled => absurd cancelled live⟩
  | @settles invoiceId =>
    refine once.of_same (fun _ => rfl) (fun j sale' found => ?_) (fun j none => ?_)
    · rw [Table.find_updateMany] at found
      obtain ⟨sale, before, rfl⟩ := Option.map_eq_some_iff.mp found
      refine ⟨sale, before, ?_⟩
      split
      · rename_i selected
        have pending : sale.status = .pending :=
          of_decide_eq_true (Bool.and_eq_true_iff.mp selected).2
        exact ⟨rfl, by simp [pending]⟩
      · exact ⟨rfl, .rfl⟩
    · rw [Table.find_updateMany] at none
      exact Option.map_eq_none_iff.mp none
  | @cancels saleId existing =>
    obtain ⟨sale, found, facility, items⟩ := knows
    have live : sale.status ≠ .cancelled := by
      rw [StockCall.inTurn, found] at fits
      exact of_decide_eq_true fits
    have back : ∀ k, returnsOf k (cancelSale db saleId existing).movements =
        returnsOf k db.movements ++ if saleId = k then returnMovements saleId existing else [] :=
      fun k => by rw [cancelSale, returnsOf_append, returnsOf_returnMovements]
    refine ⟨fun k sale' found' => ?_, fun k none => ?_⟩
    · rw [back]
      rcases Table.find_modify_cases found' with ⟨other, same⟩ | ⟨rfl, sale'', there, rfl⟩
      · rw [if_neg (Ne.symm other), List.append_nil, once.returned k sale' same]
      · rw [found] at there
        cases there
        rw [once.returned k sale found, if_neg live, if_pos rfl, if_pos rfl, List.nil_append]
        exact (returnMovements_congr facility items).symm
    · rw [back]
      rw [cancelSale, Table.find_modify] at none
      split at none
      · rename_i own
        rw [own, found] at none
        cases none
      · rename_i other
        rw [if_neg (Ne.symm other), List.append_nil, once.recorded k none]
  | @adjusts place delta db' changed =>
    obtain ⟨stock, -, rfl⟩ := Option.map_eq_some_iff.mp changed
    refine once.of_same (fun k => ?_) (fun j sale' found => ⟨sale', found, rfl, .rfl⟩) fun _ => id
    simp [returnsOf]
  | @sets place quantity before =>
    refine once.of_same (fun k => ?_) (fun j sale' found => ⟨sale', found, rfl, .rfl⟩) fun _ => id
    simp only [setStock]
    split <;> simp [returnsOf]

/-! ### Runs -/

variable {initial : Table StockPlace ℤ} {t : State StockDb StockCall}

theorem enterStock_knows {request : StockRequest} (entered : enterStock shop db request = some call) :
    call.Knows db := by
  cases request with
  | create =>
    rw [enterStock] at entered
    split at entered <;> cases entered
    trivial
  | invoicePaid =>
    cases entered
    trivial
  | cancel saleId =>
    obtain ⟨sale, found, read⟩ := Option.bind_eq_some_iff.mp entered
    split at read
    · cases read
      exact ⟨sale, found, rfl, rfl⟩
    · cases read
  | adjust | set =>
    rw [enterStock] at entered
    split at entered <;> cases entered
    trivial

theorem StockMove.knows_next {call' : StockCall} (move : StockMove db call db' (some call')) :
    call'.Knows db' := by
  generalize next : some call' = rest at move
  cases move with
  | sells =>
    cases next
    trivial
  | invoices invoiceId after =>
    rcases after with rfl | rfl <;> cases next
    trivial
  | pays | settles | cancels | adjusts | sets => cases next

theorem stock_nonNegative (nonneg : NonNegative initial)
    (run : Reaches (stockSystem shop).step ⟨.opening initial, []⟩ t) : NonNegative t.db.stock := by
  refine (System.invariant (P := fun db => NonNegative db.stock) (Q := fun _ _ => True)
    (System.admitted run) nonneg (fun _ _ => trivial) (fun _ _ => trivial) ?_).1
  intro db call input db' rest nonneg _ _ made
  refine ⟨?_, fun _ _ => trivial, fun _ _ => trivial⟩
  rcases nextStock_move made with ⟨rfl, -⟩ | ⟨-, move⟩
  · exact nonneg
  · exact move.nonNegative nonneg

/-- The stock is accounted for by its movements, and the goods of a sale come back once when it is
cancelled. -/
theorem stock_ledger (nonneg : NonNegative initial)
    (run : Run (stockSystem shop).step
      (System.admits fun db call input => stockInTurn db call input = true)
      ⟨.opening initial, []⟩ t) :
    NonNegative t.db.stock ∧
      (∀ p, inStock t.db.stock p = inStock initial p + movedAt p t.db.movements) ∧ ReturnedOnce t.db := by
  refine ⟨stock_nonNegative nonneg (run.mono fun _ _ _ => trivial), ?_⟩
  refine (System.invariant (P := fun db =>
      (∀ p, inStock db.stock p = inStock initial p + movedAt p db.movements) ∧ ReturnedOnce db)
    (Q := fun db call => call.Knows db) run ⟨fun p => ?_, ?_⟩ (nofun)
    (fun _ entered => enterStock_knows entered) ?_).1
  · exact (add_zero _).symm
  · exact ⟨nofun, fun _ _ => rfl⟩
  · intro db call input db' rest before knows fits made
    rcases nextStock_move made with ⟨rfl, rfl⟩ | ⟨proceeds, move⟩
    · exact ⟨before, nofun, fun _ => id⟩
    · have inTurn := StockCall.inTurn_of fits proceeds
      refine ⟨⟨move.moved inTurn before.1, move.returned inTurn knows before.2⟩, fun call' next => ?_,
        fun other knows => knows.keep fun k sale found => move.kept found⟩
      subst next
      exact move.knows_next

/-! ### Runs that are out of turn -/

def kiosk : Shop := ⟨fun _ => some ⟨150, 21, true⟩, fun _ => true⟩

def shelf : StockPlace := ⟨1, 1⟩

def shelved : Table StockPlace ℤ := ⟨[(shelf, 5)], List.nodup_singleton _⟩

theorem shelved_nonNegative : NonNegative shelved := by
  intro place quantity found
  have row : (place, quantity) = (shelf, 5) := List.mem_singleton.mp (Table.mem_of_find found)
  cases row
  decide

/-- A quantity is set and a sale cancelled, each in its turn. -/
theorem stock_ledger_sold : ∃ t : State StockDb StockCall,
    t.db.movements.map (·.delta) = [5, -2, 2] ∧ NonNegative t.db.stock ∧
      (∀ p, inStock t.db.stock p = inStock shelved p + movedAt p t.db.movements) ∧ ReturnedOnce t.db := by
  obtain ⟨t, run, sold⟩ := Run.exists_of_exec (stockSystem kiosk).step
    (System.admits fun db call input => stockInTurn db call input = true) ⟨.opening shelved, []⟩
    [.start (.set shelf 10), .advance 0 .proceed, .start (.create 1 none [⟨1, 2⟩] .cash),
      .advance 0 .proceed, .advance 0 (.invoiced 7), .advance 0 .proceed, .start (.cancel 0),
      .advance 0 .proceed]
    (fun t => t.db.movements.map (·.delta) = [5, -2, 2]) (by decide +kernel)
  exact ⟨t, of_decide_eq_true sold, stock_ledger shelved_nonNegative run⟩

/-- Out of turn, an adjustment between the read and the write of a setting is lost in the row and stays in
the movements, and the goods of a sale that two requests cancel come back twice. -/
theorem stock_unaccounted :
    ¬(∀ t, Reaches (stockSystem kiosk).step ⟨.opening shelved, []⟩ t →
      ∀ p, inStock t.db.stock p = inStock shelved p + movedAt p t.db.movements) ∧
    ¬(∀ t, Reaches (stockSystem kiosk).step ⟨.opening shelved, []⟩ t → ReturnedOnce t.db) := by
  constructor
  · intro accounted
    obtain ⟨t, run, lost⟩ := Run.exists_of_exec (stockSystem kiosk).step (fun _ _ => True)
      ⟨.opening shelved, []⟩
      [.start (.set shelf 10), .start (.adjust shelf 3), .advance 1 .proceed, .advance 0 .proceed]
      (fun t => inStock t.db.stock shelf ≠ inStock shelved shelf + movedAt shelf t.db.movements)
      (by decide +kernel)
    exact of_decide_eq_true lost (accounted t run shelf)
  · intro returned
    obtain ⟨t, run, twice⟩ := Run.exists_of_exec (stockSystem kiosk).step (fun _ _ => True)
      ⟨.opening shelved, []⟩
      [.start (.create 1 none [⟨1, 2⟩] .cash), .advance 0 .proceed, .start (.cancel 0),
        .start (.cancel 0), .advance 1 .proceed, .advance 1 .proceed]
      (fun t => (t.db.sales.find 0).any fun sale =>
        returnsOf 0 t.db.movements ≠
          if sale.status = .cancelled then returnMovements 0 sale else [])
      (by decide +kernel)
    obtain ⟨sale, found, wrong⟩ := (Option.any_eq_true _ _).mp twice
    exact of_decide_eq_true wrong ((returned t run).returned 0 sale found)

end StorageOS
