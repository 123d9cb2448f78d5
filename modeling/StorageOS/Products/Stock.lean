import Mathlib.Data.PNat.Defs
import Mathlib.Data.Rat.Floor
import Mathlib.Algebra.Order.Floor.Ring
import StorageOS.Billing.Rows
import StorageOS.Lib.Processes

/-! The stock of products in each facility, its movements, and the sales that take from it. A sale takes its goods in
one transaction and is invoiced and marked as paid in later ones; a cancellation gives the goods back in a transaction
of its own. Amounts are cents. -/

namespace StorageOS

open Processes

abbrev ProductId := ℕ
abbrev ProductSaleId := ℕ

structure StockPlace where
  productId : ProductId
  facilityId : FacilityId
  deriving DecidableEq

inductive StockMovementKind
  | adjust
  | set
  | sale
  | saleCancelled
  deriving DecidableEq

structure StockMovement where
  place : StockPlace
  delta : ℤ
  quantityAfter : Option ℤ
  kind : StockMovementKind
  saleId : Option ProductSaleId
  deriving DecidableEq

structure Product where
  price : ℤ
  taxRate : ℚ
  isActive : Bool

structure Shop where
  product : ProductId → Option Product
  facility : FacilityId → Bool

inductive ProductSaleStatus
  | pending
  | paid
  | cancelled
  deriving DecidableEq

inductive SalePaymentMethod
  | cash
  | card
  | bankTransfer
  | pending
  deriving DecidableEq

structure SaleItemInput where
  productId : ProductId
  quantity : ℕ+
  deriving DecidableEq

structure ProductSaleItem where
  productId : ProductId
  unitPrice : ℤ
  quantity : ℕ+
  taxRate : ℚ
  lineSubtotal : ℤ
  lineTotal : ℤ
  deriving DecidableEq

structure ProductSale where
  facilityId : FacilityId
  customerId : Option CustomerId
  status : ProductSaleStatus
  total : ℤ
  items : List ProductSaleItem
  invoiceId : Option InvoiceId
  deriving DecidableEq

structure StockDb where
  stock : Table StockPlace ℤ
  movements : List StockMovement
  sales : Table ProductSaleId ProductSale

def StockDb.opening (stock : Table StockPlace ℤ) : StockDb := ⟨stock, [], .empty⟩

/-- `F2_LIMIT`: 400 €. -/
def F2_LIMIT : ℤ := 40000

def roundCents (cents : ℚ) : ℤ := ⌊cents + 1 / 2⌋

def saleItem (product : Product) (item : SaleItemInput) : ProductSaleItem :=
  let lineSubtotal := product.price * item.quantity
  { productId := item.productId
    unitPrice := product.price
    quantity := item.quantity
    taxRate := product.taxRate
    lineSubtotal
    lineTotal := roundCents (lineSubtotal * (1 + product.taxRate / 100)) }

/-! ### Stock -/

def decrementInTx (stock : Table StockPlace ℤ) (place : StockPlace) (quantity : ℤ) :
    Option (Table StockPlace ℤ) :=
  if (stock.find place).any (quantity ≤ ·) then some (stock.modify place (· - quantity)) else none

def restoreInTx (stock : Table StockPlace ℤ) (place : StockPlace) (quantity : ℤ) :
    Table StockPlace ℤ :=
  stock.upsert place quantity (· + quantity)

def decrementItems (facilityId : FacilityId) :
    Table StockPlace ℤ → List ProductSaleItem → Option (Table StockPlace ℤ)
  | stock, [] => some stock
  | stock, item :: rest =>
    (decrementInTx stock ⟨item.productId, facilityId⟩ item.quantity).bind
      (decrementItems facilityId · rest)

def restoreItems (facilityId : FacilityId) :
    Table StockPlace ℤ → List ProductSaleItem → Table StockPlace ℤ
  | stock, [] => stock
  | stock, item :: rest =>
    restoreItems facilityId (restoreInTx stock ⟨item.productId, facilityId⟩ item.quantity) rest

def saleMovements (saleId : ProductSaleId) (sale : ProductSale) : List StockMovement :=
  sale.items.map fun item =>
    ⟨⟨item.productId, sale.facilityId⟩, -item.quantity, none, .sale, some saleId⟩

def returnMovements (saleId : ProductSaleId) (sale : ProductSale) : List StockMovement :=
  sale.items.map fun item =>
    ⟨⟨item.productId, sale.facilityId⟩, item.quantity, none, .saleCancelled, some saleId⟩

/-! ### Operations -/

def saleItems (shop : Shop) (items : List SaleItemInput) : Option (List ProductSaleItem) :=
  items.mapM fun item => (shop.product item.productId).bind fun product =>
    if product.isActive then some (saleItem product item) else none

def sell (shop : Shop) (db : StockDb) (facilityId : FacilityId) (customerId : Option CustomerId)
    (inputs : List SaleItemInput) : Option StockDb :=
  if shop.facility facilityId then
    (saleItems shop inputs).bind fun items =>
      let total := (items.map (·.lineTotal)).sum
      if customerId.isNone && F2_LIMIT < total then none
      else
        (decrementItems facilityId db.stock items).map fun stock =>
          let sale : ProductSale := ⟨facilityId, customerId, .pending, total, items, none⟩
          { stock
            movements := db.movements ++ saleMovements db.sales.nextKey sale
            sales := db.sales.push sale }
  else none

/-- The transaction of a cancellation, with the sale that was read before. -/
def cancelSale (db : StockDb) (saleId : ProductSaleId) (existing : ProductSale) : StockDb where
  stock := restoreItems existing.facilityId db.stock existing.items
  movements := db.movements ++ returnMovements saleId existing
  sales := db.sales.modify saleId fun sale => { sale with status := .cancelled }

def adjust (db : StockDb) (place : StockPlace) (delta : ℤ) : Option StockDb :=
  (if delta < 0 then decrementInTx db.stock place (-delta)
    else some (restoreInTx db.stock place delta)).map fun stock =>
    { db with
      stock
      movements := db.movements ++ [⟨place, delta, stock.find place, .adjust, none⟩] }

/-- The write of an absolute quantity, with the quantity that was read before. -/
def setStock (db : StockDb) (place : StockPlace) (quantity : ℕ) (before : ℤ) : StockDb :=
  let delta := quantity - before
  { db with
    stock := db.stock.upsert place quantity fun _ => quantity
    movements :=
      if delta = 0 then db.movements
      else db.movements ++ [⟨place, delta, some quantity, .set, none⟩] }

inductive StockRequest
  | create (facilityId : FacilityId) (customerId : Option CustomerId) (items : List SaleItemInput)
      (paymentMethod : SalePaymentMethod)
  | invoicePaid (invoiceId : InvoiceId)
  | cancel (saleId : ProductSaleId)
  | adjust (place : StockPlace) (delta : ℤ)
  | set (place : StockPlace) (quantity : ℕ)

inductive StockCall
  | selling (facilityId : FacilityId) (customerId : Option CustomerId) (items : List SaleItemInput)
      (paymentMethod : SalePaymentMethod)
  | invoicing (saleId : ProductSaleId) (paymentMethod : SalePaymentMethod)
  | paying (saleId : ProductSaleId)
  | settling (invoiceId : InvoiceId)
  | cancelling (saleId : ProductSaleId) (existing : ProductSale)
  | adjusting (place : StockPlace) (delta : ℤ)
  | setting (place : StockPlace) (quantity : ℕ) (before : ℤ)

inductive StockInput
  | proceed
  /-- The invoice of the sale was created and issued. -/
  | invoiced (invoiceId : InvoiceId)
  | fail

/-- The checks and the reads of a request before it writes. A setting reads the row without locking it. -/
def enterStock (shop : Shop) (db : StockDb) : StockRequest → Option StockCall
  | .create facilityId customerId items paymentMethod =>
    if paymentMethod = .pending && customerId.isNone then none
    else some (.selling facilityId customerId items paymentMethod)
  | .invoicePaid invoiceId => some (.settling invoiceId)
  | .cancel saleId => (db.sales.find saleId).bind fun sale =>
    if sale.status = .pending || sale.status = .paid then some (.cancelling saleId sale) else none
  | .adjust place delta =>
    if (shop.product place.productId).isSome && shop.facility place.facilityId then
      some (.adjusting place delta)
    else none
  | .set place quantity =>
    if (shop.product place.productId).isSome && shop.facility place.facilityId then
      some (.setting place quantity ((db.stock.find place).getD 0))
    else none

def nextStock (shop : Shop) (db : StockDb) : StockCall → StockInput →
    Option (StockDb × Option StockCall)
  | .selling facilityId customerId items paymentMethod, .proceed =>
    (sell shop db facilityId customerId items).map fun sold =>
      (sold, some (.invoicing db.sales.nextKey paymentMethod))
  | .invoicing saleId paymentMethod, .invoiced invoiceId =>
    if db.sales.values.any fun sale => sale.invoiceId = some invoiceId then none
    else some ({ db with
      sales := db.sales.modify saleId fun sale => { sale with invoiceId := some invoiceId } },
      if paymentMethod = .pending then none else some (.paying saleId))
  | .paying saleId, .proceed =>
    some ({ db with sales := db.sales.modify saleId fun sale => { sale with status := .paid } }, none)
  | .settling invoiceId, .proceed =>
    some ({ db with
      sales := db.sales.updateMany
        (fun row => row.2.invoiceId = some invoiceId && row.2.status = .pending)
        fun sale => { sale with status := .paid } }, none)
  | .cancelling saleId existing, .proceed => some (cancelSale db saleId existing, none)
  | .adjusting place delta, .proceed => (adjust db place delta).map (·, none)
  | .setting place quantity before, .proceed => some (setStock db place quantity before, none)
  | _, .fail => some (db, none)
  | _, _ => none

def stockSystem (shop : Shop) : System StockDb StockCall StockRequest StockInput :=
  ⟨enterStock shop, nextStock shop⟩

end StorageOS
