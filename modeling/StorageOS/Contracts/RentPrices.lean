import Mathlib.Data.NNRat.Defs
import StorageOS.Contracts.Operations
import StorageOS.Lib.Processes

/-! The price of a contract and its discount: `ContractsService.create`, `update`, `changePrice`, `changeUnit` and
`renew`, the daily job that applies what was scheduled and the update at the anniversary. The amounts of a request
have any number of decimals, and the columns keep two. A request reads the contract first and writes in a transaction
of its own. -/

namespace StorageOS

open Processes

structure PricedContract extends Tenancy where
  promoted : Bool
  scheduledPrice : Option ℤ
  scheduledPriceDate : Option Date
  deriving DecidableEq

/-- `isGreaterThan`: `a > b` in whole cents. -/
def isGreaterThan (a b : ℚ) : Prop := toCents b < toCents a

instance (a b : ℚ) : Decidable (isGreaterThan a b) := inferInstanceAs (Decidable (toCents b < toCents a))

/-! ### Creating a contract -/

inductive PromotionDiscountType
  | percentage
  | fixed
  | freeMonths
  deriving DecidableEq

structure Promotion where
  discountType : PromotionDiscountType
  discountValue : ℚ
  deriving DecidableEq

/-- `PromotionsService.computeDiscount`, in cents. -/
def Promotion.computeDiscount (promo : Promotion) (monthlyPrice : ℚ) : ℤ :=
  let raw := match promo.discountType with
    | .percentage => monthlyPrice * promo.discountValue / 100
    | _ => min promo.discountValue monthlyPrice
  min (mathRound (raw * 100)) (mathRound (monthlyPrice * 100))

/-- `applyToContractTx`: the discount of every month and the free months. -/
def Promotion.applyToContract (promo : Promotion) (monthlyPrice : ℚ) : ℤ × ℤ :=
  if promo.discountType = .freeMonths then
    (0, max 0 (if 0 ≤ promo.discountValue then ⌊promo.discountValue⌋ else ⌈promo.discountValue⌉))
  else (promo.computeDiscount monthlyPrice, 0)

/-- The amounts of a new contract as the request gives them, with the promotion and the coupon of its codes. -/
structure RentTerms where
  priceMonthly : ℚ≥0
  discountAmount : ℚ≥0
  promotion : Option Promotion
  coupon : Option Coupon
  deriving DecidableEq

def discountTooHigh (message : String) : Failure := badRequest "discount_too_high" message

/-- The months of the first payment and the part of the price that paying ahead takes off. -/
def prepayDiscountCents (facility : Facility) (input : CreateContractInput) (terms : RentTerms) : ℤ :=
  let interval := if facility.preOpening then 1 else input.billingIntervalMonths
  if 1 < interval ∧ 0 < input.prepayDiscountPct then
    mathRound (toCents terms.priceMonthly * interval * input.prepayDiscountPct / 100)
  else 0

/-- `create`, for what it writes in the contract. A coupon has no discount beside it. -/
def createContract (today : Date) (customer : RentalCustomer) (facility : Facility) (input : CreateContractInput)
    (terms : RentTerms) : Outcome PricedContract := do
  refuseIf (terms.coupon.isSome ∧ terms.promotion.isSome) (badRequest "coupon_with_promotion"
    "Un cupón no se puede combinar con un código promocional")
  refuseIf (terms.coupon.isSome ∧ 0 < terms.discountAmount) (badRequest "coupon_with_discount"
    "Un cupón no se puede combinar con un descuento manual")
  refuseIf (∃ e ∈ input.endDate, e < input.startDate) (badRequest "invalid_end_date"
    "La fecha de fin no puede ser anterior a la de inicio")
  refuseIf (isGreaterThan terms.discountAmount terms.priceMonthly)
    (discountTooHigh "El descuento no puede ser mayor que la cuota")
  let promotion := terms.promotion.map fun promo => promo.applyToContract terms.priceMonthly
  let prepayCents := prepayDiscountCents facility input terms
  refuseIf (∃ coupon ∈ terms.coupon, 0 < prepayCents ∧ coupon.discountAmount ≤ prepayCents)
    (badRequest "coupon_not_better"
      "El descuento por pagar por adelantado ya es mayor que el de este cupón")
  let draft := draftContract today customer facility { input with
    priceMonthly := column terms.priceMonthly
    discountAmount := (promotion.map Prod.fst).getD (column terms.discountAmount) }
  .ok {
    toTenancy := { draft with
      freeMonthsRemaining := (promotion.map Prod.snd).getD 0
      coupon := terms.coupon }
    promoted := promotion.isSome
    scheduledPrice := none
    scheduledPriceDate := none }

/-! ### The requests on a contract -/

/-- What `update` is given of the price and the discount; what else it writes is in `others`. -/
structure UpdatePriceInput where
  priceMonthly : Option ℚ≥0
  discountAmount : Option ℚ≥0
  endDate : Option (Option Date)
  deriving DecidableEq

structure ChangeContractPriceInput where
  priceMonthly : ℚ
  effectiveDate : Option Date
  deriving DecidableEq

inductive PriceRequest
  | update (input : UpdatePriceInput)
  | changePrice (input : ChangeContractPriceInput)
  | changeUnit (input : ChangeUnitInput)
  | renew (months : ℕ) (newPrice : Option ℚ)
  /-- The update at the anniversary of a contract for which it is due. -/
  | applyAnniversary (pct : ℚ)
  | applyScheduledPrice
  | applyScheduledMove
  | cancelScheduledPrice
  | cancelScheduledMove
  /-- What the other operations make of the contract. -/
  | write (row : PricedContract)

/-- The requests under way; `existing` is the contract as a request has read it. -/
inductive PriceCall
  | updating (input : UpdatePriceInput)
  | writing (data : UpdatePriceInput) (existing : PricedContract)
  | changingPrice (input : ChangeContractPriceInput)
  | schedulingPrice (priceMonthly : ℚ) (date : Date)
  | writingPrice (priceMonthly : ℚ) (existing : PricedContract)
  | changingUnit (input : ChangeUnitInput)
  | schedulingMove (input : ChangeUnitInput) (date : Date)
  | moving (input : ChangeUnitInput)
  | renewing (months : ℕ) (newPrice : Option ℚ)
  | extending (months : ℕ) (newPrice : Option ℚ) (existing : PricedContract)
  | findingAnniversary (pct : ℚ)
  | findingScheduledPrice
  | findingScheduledMove
  | cancellingPrice
  | cancellingMove
  | writingOthers (row : PricedContract)

/-- The day of a step, and whether it fails, as the step of a move does for a unit that is taken. -/
structure PriceInput where
  today : Date
  fails : Bool

def enterPrice (_ : PricedContract) : PriceRequest → Option PriceCall
  | .update input => some (.updating input)
  | .changePrice input => some (.changingPrice input)
  | .changeUnit input => some (.changingUnit input)
  | .renew months newPrice => some (.renewing months newPrice)
  | .applyAnniversary pct => some (.findingAnniversary pct)
  | .applyScheduledPrice => some .findingScheduledPrice
  | .applyScheduledMove => some .findingScheduledMove
  | .cancelScheduledPrice => some .cancellingPrice
  | .cancelScheduledMove => some .cancellingMove
  | .write row => some (.writingOthers row)

/-- What `update` lets through of the price and the discount. -/
def PricedContract.updatePrice (existing : PricedContract) (input : UpdatePriceInput) :
    Outcome UpdatePriceInput := do
  refuseIf (existing.status = .ended ∨ existing.status = .cancelled) (badRequest "contract_closed"
    "El contrato ya no está vivo")
  refuseIf (existing.status = .ending ∧ input.endDate = some none) (badRequest "ending_requires_date"
    "Un contrato en baja necesita su fecha de fin: para anularla, usa «Renovar»")
  refuseIf (input.priceMonthly.isSome ∧ existing.status ≠ .draft) (badRequest "contract_not_draft"
    "El precio, la fecha de inicio y la fianza solo se cambian antes de la firma")
  let priceMonthly := input.priceMonthly.filter fun price : ℚ≥0 => (price : ℚ) ≠ euros existing.priceMonthly
  refuseIf (priceMonthly.isSome ∧ existing.coupon.isSome) (badRequest "coupon_price_locked"
    "Este contrato lleva un cupón calculado con su cuota: para cambiarla, cancélalo y crea otro")
  refuseIf (priceMonthly.isSome ∧ existing.promoted) (badRequest "promotion_price_locked"
    "Este contrato lleva una promoción calculada con su cuota: para cambiarla, cancélalo y crea otro")
  let effectiveEnd := input.endDate.getD existing.endDate
  refuseIf (∃ e ∈ effectiveEnd, e < existing.startDate) (badRequest "invalid_end_date"
    "La fecha de fin no puede ser anterior a la de inicio")
  let discountAmount := input.discountAmount.filter fun _ => existing.status = .draft
  refuseIf ((∃ discount ∈ discountAmount, 0 < discount) ∧ existing.coupon.isSome)
    (badRequest "coupon_with_discount" "Un cupón no se puede combinar con un descuento manual")
  let effectivePrice := (priceMonthly.map fun price => (price : ℚ)).getD (euros existing.priceMonthly)
  let effectiveDiscount := (discountAmount.map fun discount => (discount : ℚ)).getD (euros existing.discountAmount)
  refuseIf (isGreaterThan effectiveDiscount effectivePrice)
    (discountTooHigh "El descuento no puede ser mayor que la cuota")
  .ok { priceMonthly, discountAmount, endDate := input.endDate }

/-- The price and the discount after `update` has written. -/
def PricedContract.priceAfter (c : PricedContract) (data : UpdatePriceInput) : ℤ :=
  (data.priceMonthly.map fun price => column price).getD c.priceMonthly

def PricedContract.discountAfter (c : PricedContract) (data : UpdatePriceInput) : ℤ :=
  (data.discountAmount.map fun discount => column discount).getD c.discountAmount

def PricedContract.write (data : UpdatePriceInput) (c : PricedContract) : PricedContract :=
  { c with
    priceMonthly := c.priceAfter data
    discountAmount := c.discountAfter data
    endDate := data.endDate.getD c.endDate }

/-- The checks of `changePrice`, and whether the price waits for its date. -/
def PricedContract.changePrice (existing : PricedContract) (today : Date) (input : ChangeContractPriceInput) :
    Outcome PriceCall := do
  refuseIf (existing.status ≠ .active ∧ existing.status ≠ .ending) (badRequest "contract_not_active"
    "Solo se puede cambiar el precio en contratos activos")
  refuseIf existing.isPendingPreOpening (badRequest "pre_opening_not_started"
    "El precio de una reserva antes de la apertura queda fijado desde la reserva")
  refuseIf (isGreaterThan (euros existing.discountAmount) input.priceMonthly)
    (discountTooHigh "La cuota no puede ser menor que el descuento del contrato")
  match input.effectiveDate.filter (today < ·) with
  | some date => .ok (.schedulingPrice input.priceMonthly date)
  | none => .ok (.writingPrice input.priceMonthly existing)

/-- The checks of `changeUnit` on the contract, and whether the move waits for its date. -/
def PricedContract.changeUnit (existing : PricedContract) (today : Date) (input : ChangeUnitInput) :
    Outcome PriceCall := do
  refuseIf (existing.status ≠ .active ∧ existing.status ≠ .ending) (badRequest "contract_not_active"
    "Solo se puede trasladar un contrato activo")
  refuseIf (input.newUnitId = existing.unitId) (badRequest "same_unit"
    "El trastero de destino es el mismo")
  refuseIf (existing.isPendingPreOpening ∧ (input.newPrice.isSome ∨ input.prorate))
    (preOpeningSamePrice "En una reserva antes de la apertura el precio no cambia")
  match input.effectiveDate.filter (today < ·) with
  | some date => do
    refuseIf existing.isPendingPreOpening
      (preOpeningSamePrice "Antes de la apertura el cambio de trastero es inmediato")
    refuseIf existing.scheduledUnitId.isSome (conflict "move_already_scheduled"
      "Este contrato ya tiene un traslado programado: anúlalo antes")
    .ok (.schedulingMove input date)
  | none => .ok (.moving input)

def PricedContract.renewalBase (existing : PricedContract) (today : Date) : Date :=
  match existing.endDate with
  | some e => if today < e then e else today
  | none => today

/-- What `renew` writes in the end of the contract. -/
def PricedContract.extend (existing : PricedContract) (today : Date) (months : ℕ) (c : PricedContract) :
    PricedContract :=
  { c with
    endDate := some (addMonths (existing.renewalBase today) months)
    termMonths := some months
    status := if existing.status = .ending then .active else c.status
    endDateBeforeEnding := if existing.status = .ending then none else c.endDateBeforeEnding }

def anniversaryPrice (current : ℤ) (pct : ℚ) : ℤ := mathRound (euros current * (1 + pct / 100) * 100)

/-- What another operation writes: the columns that stay as they are. -/
def PricedContract.withOthers (row c : PricedContract) : PricedContract :=
  { row with
    priceMonthly := c.priceMonthly
    discountAmount := c.discountAmount
    billingIntervalMonths := c.billingIntervalMonths
    firstPaymentMonths := c.firstPaymentMonths
    prepayDiscountPct := c.prepayDiscountPct }

def PricedContract.isLive (c : PricedContract) : Bool :=
  (c.status = .active || c.status = .ending) && c.deletedAt.isNone

def stepPrice (c : PricedContract) (call : PriceCall) (input : PriceInput) :
    Option (PricedContract × Option PriceCall) :=
  if input.fails then some (c, none)
  else match call with
  | .updating update => some (c, (c.updatePrice update).toOption.map fun data => .writing data c)
  | .writing data _ => some (c.write data, none)
  | .changingPrice change => some (c, (c.changePrice input.today change).toOption)
  | .schedulingPrice priceMonthly date =>
    some ({ c with scheduledPrice := some (column priceMonthly), scheduledPriceDate := some date }, none)
  | .writingPrice priceMonthly _ =>
    some ({ c with priceMonthly := column priceMonthly, scheduledPrice := none, scheduledPriceDate := none }, none)
  | .changingUnit change => some (c, (c.changeUnit input.today change).toOption)
  | .schedulingMove change date => some ({ c with toTenancy := c.withScheduledMove change date }, none)
  | .moving change => some ({ c with toTenancy := c.moved change }, none)
  | .renewing months newPrice =>
    some (c, if (c.status = .active ∨ c.status = .ending) ∧ ¬c.isPendingPreOpening
      then some (.extending months newPrice c) else none)
  | .extending months newPrice existing =>
    -- The new price counts from the day after the end that the contract had.
    some (existing.extend input.today months c, (newPrice.filter (· ≠ euros existing.priceMonthly)).map fun price =>
      .changingPrice ⟨price, some (existing.renewalBase input.today + 1)⟩)
  | .findingAnniversary pct =>
    let newPrice := anniversaryPrice c.priceMonthly pct
    some (c, if c.isLive ∧ ¬c.isPendingPreOpening ∧ newPrice ≠ c.priceMonthly
      then some (.changingPrice ⟨euros newPrice, none⟩) else none)
  | .findingScheduledPrice =>
    -- Nobody schedules a date without a price.
    some (c, if c.isLive ∧ ∃ date ∈ c.scheduledPriceDate, date ≤ input.today
      then some (.changingPrice ⟨euros (c.scheduledPrice.getD 0), none⟩) else none)
  | .findingScheduledMove =>
    some (c, if c.isLive ∧ ∃ date ∈ c.scheduledUnitDate, date ≤ input.today
      then c.scheduledUnitId.map fun unitId =>
        .changingUnit ⟨unitId, c.scheduledUnitPrice, c.scheduledUnitProrate, none⟩
      else none)
  | .cancellingPrice => some ({ c with scheduledPrice := none, scheduledPriceDate := none }, none)
  | .cancellingMove => some ({ c with toTenancy := c.withoutScheduledMove }, none)
  | .writingOthers row => some (row.withOthers c, none)

def priceSystem : System PricedContract PriceCall PriceRequest PriceInput where
  enter := enterPrice
  next := stepPrice

end StorageOS
