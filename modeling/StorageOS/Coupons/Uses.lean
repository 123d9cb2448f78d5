import StorageOS.Coupons.Quote
import StorageOS.Lib.Processes

/-! The uses of coupons. The transaction of a contract reads the coupon, counts what its customer has
used of it, reserves a use and records it; the transaction that cancels the contract gives the use
back. A transaction that has changed the row of a coupon holds it until it ends. -/

namespace StorageOS

structure CouponRedemption where
  couponId : CouponId
  customerId : Option CustomerId
  contractId : Option ContractId
  invoiceId : Option InvoiceId
  months : ℤ
  discountAmount : ℤ
  freeMonths : ℤ

/-- The coupons and their uses as committed, and the coupons whose row an open transaction has
changed. A deleted use leaves its id, which is not given again. -/
structure CouponDb where
  coupons : Table CouponId CouponRow
  redemptions : Table ℕ (Option CouponRedemption)
  held : List CouponId

def CouponDb.usedByCustomer (db : CouponDb) (couponId : CouponId) (customerId : CustomerId) : Bool :=
  db.redemptions.rows.any fun (_, use) =>
    use.any fun r => r.couponId = couponId && r.customerId = some customerId

def normalizeCode (code : String) : String := (trim code).toUpper

def CouponDb.byCode (db : CouponDb) (code : String) : Option (CouponId × CouponRow) :=
  db.coupons.rows.find? fun (_, coupon) => coupon.code = code

def CouponDb.useOfContract (db : CouponDb) (contractId : ContractId) :
    Option (ℕ × CouponRedemption) :=
  db.redemptions.rows.findSome? fun (id, use) =>
    (use.filter fun r => r.contractId = some contractId).map fun r => (id, r)

structure FirstPayment where
  amountPaid : ℤ
  status : InvoiceStatus

/-- A use whose first payment was collected, or settled at zero, is kept. -/
def FirstPayment.keepsUse (p : FirstPayment) : Bool :=
  p.amountPaid > 0 || p.status = .paid || p.status = .refunded || p.status = .partiallyRefunded

inductive CouponRequest
  | redeem (code : String) (ctx : CouponQuoteContext) (customerId : Option CustomerId)
  | release (contractId : ContractId) (invoices : InvoiceId → Option FirstPayment)

inductive CouponCall
  | loaded (couponId : CouponId) (coupon : CouponRow) (ctx : CouponQuoteContext)
      (customerId : Option CustomerId)
  | quoted (couponId : CouponId) (coupon : CouponRow) (customerId : Option CustomerId)
      (quote : CouponQuote)
  | reserved (couponId : CouponId) (customerId : Option CustomerId) (quote : CouponQuote)
  | releasing (useId : ℕ) (couponId : CouponId)

inductive CouponInput
  | proceed
  | record (contractId : Option ContractId) (invoiceId : Option InvoiceId)
  | rollback

def enterCoupon (db : CouponDb) : CouponRequest → Option CouponCall
  | .redeem code ctx customerId =>
    (db.byCode (normalizeCode code)).map fun (id, coupon) => .loaded id coupon ctx customerId
  | .release contractId invoices =>
    (db.useOfContract contractId).bind fun (id, use) =>
      if (use.invoiceId.bind invoices).any FirstPayment.keepsUse then none
      else some (.releasing id use.couponId)

def countAndQuote (db : CouponDb) (couponId : CouponId) (coupon : CouponRow)
    (ctx : CouponQuoteContext) (customerId : Option CustomerId) : Outcome CouponQuote :=
  let usedByCustomer :=
    match customerId with
    | some customerId =>
      if coupon.oncePerCustomer then some (db.usedByCustomer couponId customerId) else none
    | none => none
  match quoteCoupon coupon { ctx with usedByCustomer } with
  | .ok quote => .ok quote
  | .error reason =>
    .error (couponFailure reason (couponRejectMessage coupon.minMonths coupon.minAmount reason))

/-- The conditional update that reserves a use: the limit is the one read before. -/
def reservable (coupon row : CouponRow) : Bool :=
  row.isActive && coupon.maxUses.all fun limit => row.usedCount < limit

def CouponDb.changeUsed (db : CouponDb) (couponId : CouponId) (change : ℤ) :
    Table CouponId CouponRow :=
  db.coupons.modify couponId fun row => { row with usedCount := row.usedCount + change }

def CouponDb.record (db : CouponDb) (couponId : CouponId) (customerId : Option CustomerId)
    (quote : CouponQuote) (contractId : Option ContractId) (invoiceId : Option InvoiceId) :
    CouponDb where
  coupons := db.changeUsed couponId 1
  redemptions := db.redemptions.push (some
    { couponId, customerId, contractId, invoiceId
      months := quote.months
      discountAmount := quote.discountAmount
      freeMonths := quote.freeMonths })
  held := db.held.erase couponId

def CouponRow.giveBack (row : CouponRow) : CouponRow :=
  if row.usedCount > 0 then { row with usedCount := row.usedCount - 1 } else row

theorem CouponRow.giveBack_limits (row : CouponRow) :
    row.giveBack.maxUses = row.maxUses ∧ row.giveBack.oncePerCustomer = row.oncePerCustomer := by
  rw [giveBack]
  split <;> exact ⟨rfl, rfl⟩

theorem CouponRow.giveBack_usedCount (row : CouponRow) :
    row.giveBack.usedCount = if row.usedCount > 0 then row.usedCount - 1 else row.usedCount := by
  rw [giveBack]
  split <;> rfl

def CouponDb.release (db : CouponDb) (useId : ℕ) (couponId : CouponId) : CouponDb :=
  { db with
    coupons := db.coupons.modify couponId CouponRow.giveBack
    redemptions := db.redemptions.modify useId fun _ => none }

/-- The next statement of a transaction; the last one commits it. It waits while another holds the
row of the coupon. -/
def nextCoupon (db : CouponDb) : CouponCall → CouponInput → Option (CouponDb × Option CouponCall)
  | .loaded couponId coupon ctx customerId, .proceed =>
    match countAndQuote db couponId coupon ctx customerId with
    | .ok quote => some (db, some (.quoted couponId coupon customerId quote))
    | .error _ => some (db, none)
  | .quoted couponId coupon customerId quote, .proceed =>
    if couponId ∈ db.held then none
    else if (db.coupons.find couponId).any (reservable coupon) then
      some ({ db with held := couponId :: db.held }, some (.reserved couponId customerId quote))
    else some (db, none)
  | .reserved couponId customerId quote, .record contractId invoiceId =>
    -- The unique index refuses a second use of a contract.
    if contractId.any fun id => (db.useOfContract id).isSome then
      some ({ db with held := db.held.erase couponId }, none)
    else some (db.record couponId customerId quote contractId invoiceId, none)
  | .reserved couponId _ _, .rollback => some ({ db with held := db.held.erase couponId }, none)
  | .releasing useId couponId, .proceed =>
    if couponId ∈ db.held then none
    else if ((db.redemptions.find useId).bind id).isSome then some (db.release useId couponId, none)
    else some (db, none)
  | .loaded .., .rollback | .quoted .., .rollback | .releasing .., .rollback => some (db, none)
  | _, _ => none

def couponSystem : Processes.System CouponDb CouponCall CouponRequest CouponInput where
  enter := enterCoupon
  next := nextCoupon

def CouponDb.uses (db : CouponDb) (couponId : CouponId) : ℤ :=
  db.redemptions.sum fun use => if use.any fun r => r.couponId = couponId then 1 else 0

def CouponDb.usesBy (db : CouponDb) (couponId : CouponId) (customerId : CustomerId) : ℤ :=
  db.redemptions.sum fun use =>
    if use.any fun r => r.couponId = couponId && r.customerId = some customerId then 1 else 0

structure CouponDb.Accounted (db : CouponDb) : Prop where
  counted : ∀ id row, db.coupons.find id = some row → row.usedCount = db.uses id
  within : ∀ id row limit, db.coupons.find id = some row → row.maxUses = some limit →
    row.usedCount ≤ limit
  once : ∀ id row customerId, db.coupons.find id = some row → row.oncePerCustomer = true →
    db.usesBy id customerId ≤ 1

/-- When the use of a coupon limited to one for each customer is reserved, its customer still has
none. -/
def reservedUnused (db : CouponDb) : CouponCall → CouponInput → Bool
  | .quoted couponId coupon customerId _, .proceed =>
    !coupon.oncePerCustomer || !customerId.any fun u => db.usedByCustomer couponId u
  | _, _ => true

end StorageOS
