import StorageOS.Billing.Recurring
import StorageOS.Common.Text

/-! Coupons: the rows, and the discount that a coupon gives on a payment. -/

namespace StorageOS

abbrev CouponId := ℕ
abbrev UnitTypeId := ℕ

inductive CouponDiscountType
  | percentage
  | fixed
  | freeMonths
  deriving DecidableEq

structure CouponRow where
  code : String
  name : String
  discountType : CouponDiscountType
  discountValue : ℚ
  minMonths : ℤ
  minAmount : Option ℚ
  unitTypeIds : List UnitTypeId
  facilityIds : List FacilityId
  newCustomersOnly : Bool
  oncePerCustomer : Bool
  preOpeningOnly : Bool
  maxUses : Option ℤ
  usedCount : ℤ
  validFrom : Option Instant
  validUntil : Option Instant
  isActive : Bool

structure CouponQuoteContext where
  monthlyPrice : ℚ
  months : ℤ
  unitTypeId : Option UnitTypeId
  facilityId : Option FacilityId
  isNewCustomer : Option Bool
  usedByCustomer : Option Bool
  preOpening : Bool
  now : Instant

inductive CouponRejectReason
  | notFound
  | inactive
  | notStarted
  | expired
  | maxUsesReached
  | invalidMonths
  | minMonths
  | minAmount
  | unitType
  | facility
  | newCustomersOnly
  | alreadyUsed
  | preOpeningOnly
  deriving DecidableEq

def CouponRejectReason.code : CouponRejectReason → String
  | .notFound => "not_found"
  | .inactive => "inactive"
  | .notStarted => "not_started"
  | .expired => "expired"
  | .maxUsesReached => "max_uses_reached"
  | .invalidMonths => "invalid_months"
  | .minMonths => "min_months"
  | .minAmount => "min_amount"
  | .unitType => "unit_type"
  | .facility => "facility"
  | .newCustomersOnly => "new_customers_only"
  | .alreadyUsed => "already_used"
  | .preOpeningOnly => "pre_opening_only"

def couponFailure (reason : CouponRejectReason) (message : String) : Failure :=
  badRequest ("coupon_" ++ reason.code) message

def couponMaxMonths : ℤ := 12

/-- `eur`: a sum in euros as it is written in Spanish, with a point at ten thousand and no decimals
that are zero. -/
def eur (amount : ℚ) : String :=
  let cents := (mathRound (amount * 100)).toNat
  let whole := cents / 100
  let units :=
    if whole < 10000 then toString whole
    else
      let thousands := whole / 1000
      let high :=
        if thousands < 1000 then toString thousands
        else toString (thousands / 1000) ++ "." ++ padStart 3 (toString (thousands % 1000))
      high ++ "." ++ padStart 3 (toString (whole % 1000))
  let decimals :=
    if cents % 100 = 0 then ""
    else if cents % 10 = 0 then "," ++ toString (cents % 100 / 10)
    else "," ++ padStart 2 (toString (cents % 100))
  units ++ decimals ++ " €"

/-- `couponRejectMessage`, with the minimum of months and of money that the coupon asks for. -/
def couponRejectMessage (minMonths : ℤ) (minAmount : Option ℚ) : CouponRejectReason → String
  | .notFound => "Este cupón no existe"
  | .inactive => "Este cupón no está activo"
  | .notStarted => "Este cupón aún no se puede usar"
  | .expired => "Este cupón ha caducado"
  | .maxUsesReached => "Este cupón ya se ha usado el máximo de veces"
  | .invalidMonths => "Elige entre 1 y " ++ toString couponMaxMonths ++ " meses"
  | .minMonths =>
    "Este cupón es a partir de " ++ toString minMonths ++ " " ++
      (if minMonths = 1 then "mes" else "meses") ++ " pagados por adelantado"
  | .minAmount =>
    match minAmount.filter fun amount => amount ≠ 0 with
    | some amount => "Este cupón es para pagos a partir de " ++ eur amount ++ " (sin IVA)"
    | none => "El importe no llega al mínimo de este cupón"
  | .unitType => "Este cupón no vale para este tamaño de trastero"
  | .facility => "Este cupón no vale en este local"
  | .newCustomersOnly => "Este cupón es solo para clientes nuevos"
  | .alreadyUsed => "Ya has usado este cupón"
  | .preOpeningOnly => "Este cupón es solo para reservas en un local que aún no ha abierto"

structure CouponQuote where
  months : ℤ
  rentSubtotal : ℤ
  discountAmount : ℤ
  freeMonths : ℤ
  rentTotal : ℤ
  deriving DecidableEq

def CouponRow.rejects (rules : CouponRow) (ctx : CouponQuoteContext) : Option CouponRejectReason :=
  if !rules.isActive then some .inactive
  else if rules.validFrom.any fun start => start > ctx.now then some .notStarted
  else if rules.validUntil.any fun limit => limit < ctx.now then some .expired
  else if rules.maxUses.any fun limit => rules.usedCount ≥ limit then some .maxUsesReached
  else if ctx.months < 1 || ctx.months > couponMaxMonths then some .invalidMonths
  else if ctx.months < rules.minMonths then some .minMonths
  else if !rules.unitTypeIds.isEmpty && !ctx.unitTypeId.any (· ∈ rules.unitTypeIds) then
    some .unitType
  else if !rules.facilityIds.isEmpty && !ctx.facilityId.any (· ∈ rules.facilityIds) then
    some .facility
  else if rules.newCustomersOnly && ctx.isNewCustomer = some false then some .newCustomersOnly
  else if rules.oncePerCustomer && ctx.usedByCustomer = some true then some .alreadyUsed
  else if rules.preOpeningOnly && !ctx.preOpening then some .preOpeningOnly
  else none

/-- `quoteCoupon`: the discount, or the reason why there is none. -/
def quoteCoupon (rules : CouponRow) (ctx : CouponQuoteContext) :
    Except CouponRejectReason CouponQuote :=
  match rules.rejects ctx with
  | some reason => .error reason
  | none =>
    let monthCents := max 0 (mathRound (ctx.monthlyPrice * 100))
    let subtotal := monthCents * ctx.months
    if rules.minAmount.any fun amount => subtotal < mathRound (amount * 100) then .error .minAmount
    else
      let freeMonths :=
        if rules.discountType = .freeMonths then
          min (if 0 ≤ rules.discountValue then ⌊rules.discountValue⌋ else ⌈rules.discountValue⌉)
            (ctx.months - 1)
        else 0
      let offered :=
        match rules.discountType with
        | .percentage => mathRound (subtotal * min rules.discountValue 100 / 100)
        | .fixed => mathRound (rules.discountValue * 100)
        | .freeMonths => freeMonths * monthCents
      let discount := min (max 0 offered) subtotal
      .ok ⟨ctx.months, subtotal, discount, freeMonths, subtotal - discount⟩

end StorageOS
