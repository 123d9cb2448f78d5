import StorageOS.Coupons.Quote
import StorageOS.Billing.Requests
import StorageOS.Billing.FirstMonth

/-! The summary of a first payment that is shown before a contract is made, and the contract that is made
of it. -/

namespace StorageOS

open Gregorian

/-! ### `buildFirstPaymentQuote` -/

/-- The coupon of a summary: whether it is accepted, and if not why. -/
structure QuotedCoupon where
  code : String
  name : Option String
  valid : Bool
  message : Option String

/-- The days of the first month and of the next, with the rent of both in cents. -/
structure QuotedFirstMonth where
  periodStart : Date
  periodEnd : Date
  days : ℤ
  daysInMonth : ℤ
  includesNextMonth : Bool
  firstMonthRent : ℤ
  nextMonthRent : ℤ

/-- `FirstPaymentQuoteDto`, in cents. -/
structure FirstPaymentQuote where
  months : ℤ
  monthlyPrice : ℤ
  vatRate : ℚ
  rentSubtotal : ℤ
  discountAmount : ℤ
  freeMonths : ℤ
  rentTotal : ℤ
  rentTotalWithVat : ℤ
  insuranceWithVat : ℤ
  deposit : ℤ
  totalToPay : ℤ
  prorated : Bool
  preOpening : Bool
  firstMonth : Option QuotedFirstMonth
  coupon : Option QuotedCoupon

structure FirstPaymentInput where
  monthlyPrice : ℚ
  months : ℤ
  vatRate : ℚ
  discountAmount : ℚ
  freeMonths : ℤ
  deposit : ℚ
  insuranceWithVat : ℚ
  prorated : Bool
  firstMonth : Option FirstMonthPlan
  coupon : Option QuotedCoupon
  preOpening : Bool

def centsWithVat (vatRate : ℚ) (cents : ℤ) : ℤ := mathRound (cents * (100 + vatRate) / 100)

def buildFirstPaymentQuote (args : FirstPaymentInput) : FirstPaymentQuote :=
  let monthCents := mathRound (args.monthlyPrice * 100)
  let plan := if !args.preOpening && args.prorated && args.months = 1 then args.firstMonth else none
  let split := plan.map (firstMonthCents monthCents)
  let subtotal := match split with
    | some rent => rent.1 + rent.2
    | none => monthCents * args.months
  let discount := min (max 0 (mathRound (args.discountAmount * 100))) subtotal
  let rentTotal := subtotal - discount
  let withVat := match split with
    | some rent => centsWithVat args.vatRate rent.1 + centsWithVat args.vatRate rent.2
    | none => centsWithVat args.vatRate rentTotal
  let deposit := mathRound (args.deposit * 100)
  let insurance := mathRound (args.insuranceWithVat * 100)
  { months := args.months
    monthlyPrice := monthCents
    vatRate := args.vatRate
    rentSubtotal := subtotal
    discountAmount := discount
    freeMonths := args.freeMonths
    rentTotal := rentTotal
    rentTotalWithVat := withVat
    insuranceWithVat := insurance
    deposit := deposit
    totalToPay := withVat + insurance + deposit
    prorated := if args.preOpening then false else args.prorated
    preOpening := args.preOpening
    firstMonth := plan.map fun plan =>
      { periodStart := plan.periodStart
        periodEnd := plan.periodEnd
        days := plan.days
        daysInMonth := plan.daysInMonth
        includesNextMonth := plan.includesNextMonth
        firstMonthRent := (firstMonthCents monthCents plan).1
        nextMonthRent := (firstMonthCents monthCents plan).2 }
    coupon := args.coupon }

/-! ### `CouponsService.quoteFirstPayment` -/

/-- `publicCouponRejectMessage`: on the public site, whether a code exists is not told. -/
def publicCouponRejectMessage (reason : CouponRejectReason) (message : String) : String :=
  match reason with
  | .notFound | .inactive | .notStarted | .expired | .maxUsesReached => "Este cupón no es válido"
  | _ => message

structure CouponLookup where
  code : String
  row : Option CouponRow

/-- `CouponsService.quote` -/
def CouponLookup.quote (lookup : CouponLookup) (ctx : CouponQuoteContext) : Except CouponRejectReason CouponQuote :=
  match lookup.row with
  | none => .error .notFound
  | some rules => quoteCoupon rules ctx

/-- What is asked for: a unit at a price less the discount of the contract, from a day on, with a number
of months to pay. The rate has two decimals, given in hundredths. -/
structure FirstPaymentArgs where
  priceMonthly : ℤ
  discountAmount : ℤ
  priced : 0 ≤ priceMonthly - discountAmount
  months : ℤ
  some_ : 1 ≤ months
  vatHundredths : ℕ
  deposit : ℤ
  deposit_nonneg : 0 ≤ deposit
  unitTypeId : UnitTypeId
  facilityId : FacilityId
  coupon : Option CouponLookup
  isNewCustomer : Option Bool
  usedByCustomer : Option Bool
  publicMessages : Bool
  startDate : Date
  nextMonthFromDay : Option ℤ
  -- The facility is not open yet, and one month is paid to reserve.
  preOpening : Bool
  now : Instant

namespace FirstPaymentArgs

variable (args : FirstPaymentArgs)

def fullPrice : ℤ := args.priceMonthly - args.discountAmount

def paidMonths : ℤ := if args.preOpening then 1 else args.months

def vatRate : ℚ := args.vatHundredths / 100

def context : CouponQuoteContext where
  monthlyPrice := euros args.fullPrice
  months := args.paidMonths
  unitTypeId := some args.unitTypeId
  facilityId := some args.facilityId
  isNewCustomer := args.isNewCustomer
  usedByCustomer := args.usedByCustomer
  preOpening := args.preOpening
  now := args.now

def accepted : Option CouponQuote :=
  args.coupon.bind fun lookup => (lookup.quote args.context).toOption

def quotedCoupon : Option QuotedCoupon :=
  args.coupon.map fun lookup =>
    { code := lookup.code
      name := lookup.row.map CouponRow.name
      valid := (lookup.quote args.context).isOk
      message := match lookup.quote args.context with
        | .ok _ => none
        | .error reason =>
          let message := couponRejectMessage ((lookup.row.map CouponRow.minMonths).getD 1)
            (lookup.row.bind CouponRow.minAmount) reason
          if args.publicMessages then some (publicCouponRejectMessage reason message) else some message }

end FirstPaymentArgs

def quoteFirstPayment (args : FirstPaymentArgs) : FirstPaymentQuote :=
  buildFirstPaymentQuote
    { monthlyPrice := euros args.fullPrice
      months := args.paidMonths
      vatRate := args.vatRate
      discountAmount := match args.accepted with
        | some quote => euros quote.discountAmount
        | none => 0
      freeMonths := match args.accepted with
        | some quote => quote.freeMonths
        | none => 0
      deposit := euros args.deposit
      insuranceWithVat := 0
      prorated := args.paidMonths = 1 && args.accepted.isNone
      firstMonth := some (firstMonthPlan args.startDate args.nextMonthFromDay)
      coupon := args.quotedCoupon
      preOpening := args.preOpening }

/-! ### The contract and its first invoice -/

/-- The contract that is made, with the coupon that is redeemed with it. -/
def FirstPaymentArgs.contractWith (args : FirstPaymentArgs) (redeemed : Option CouponQuote) : Contract where
  status := .active
  deletedAt := none
  customerIsTest := false
  preOpening := args.preOpening
  preOpeningStartedAt := none
  startDate := args.startDate
  endDate := none
  endDateBeforeEnding := none
  termMonths := none
  autoRenew := true
  cancellationNoticeDays := 15
  billingStartsOn := none
  billingIntervalMonths := 1
  firstPaymentMonths := args.paidMonths
  prepayDiscountPct := 0
  priceMonthly := args.priceMonthly
  discountAmount := args.discountAmount
  insurancePrice := none
  depositAmount := args.deposit
  freeMonthsRemaining := 0
  pendingCreditAmount := 0
  pendingCreditReason := none
  coupon := redeemed.map fun quote => ⟨quote.freeMonths, quote.discountAmount⟩

def FirstPaymentArgs.contract (args : FirstPaymentArgs) : Except CouponRejectReason Contract :=
  match args.coupon with
  | none => .ok (args.contractWith none)
  | some lookup => (lookup.quote args.context).map fun quote => args.contractWith (some quote)

def RentInvoice.inputs (vatRate : ℚ) (invoice : RentInvoice) : List InvoiceItemInput :=
  invoice.items.map fun line =>
    { description := ""
      quantity := line.quantity
      unitPrice := euros line.unitPrice
      taxRate := vatRate
      taxCategory := none
      relatedContractId := none }

def RentInvoice.receiptTotal (receipt : RentInvoice) : ℤ :=
  (receipt.items.map fun line => line.quantity * line.unitPrice).sum

/-! The summary of a first payment is what is then invoiced: the total of the first invoice of the contract
and the deposit. -/

/-! ### What a coupon gives -/

/-- What an accepted coupon gives of a payment of some months at a price. -/
structure CouponQuote.Fits (quote : CouponQuote) (monthCents months : ℤ) : Prop where
  some_ : 1 ≤ months
  paid : quote.months = months
  subtotal : quote.rentSubtotal = monthCents * months
  discount : 0 ≤ quote.discountAmount ∧ quote.discountAmount ≤ quote.rentSubtotal
  leaves : quote.freeMonths ≤ months - 1
  -- Months that are free are the whole discount.
  free : 0 < quote.freeMonths → quote.discountAmount = quote.freeMonths * monthCents

variable {rules : CouponRow} {ctx : CouponQuoteContext}

theorem months_of_not_rejects (fits : rules.rejects ctx = none) :
    1 ≤ ctx.months := by
  by_contra few
  have bad : (ctx.months < 1 || ctx.months > couponMaxMonths) = true := by
    simp only [Bool.or_eq_true, decide_eq_true_eq]
    exact .inl (by omega)
  rw [CouponRow.rejects] at fits
  iterate 4
    split at fits
    · cases fits
  cases fits

theorem discount_bounds {offered subtotal : ℤ} (priced : 0 ≤ subtotal) :
    0 ≤ min (max 0 offered) subtotal ∧ min (max 0 offered) subtotal ≤ subtotal :=
  ⟨le_min (le_max_left _ _) priced, min_le_right _ _⟩

theorem quoteCoupon_fits {quote : CouponQuote} (accepted : quoteCoupon rules ctx = .ok quote) :
    quote.Fits (max 0 (mathRound (ctx.monthlyPrice * 100))) ctx.months := by
  unfold quoteCoupon at accepted
  split at accepted
  · cases accepted
  · rename_i fits
    have some_ := months_of_not_rejects fits
    have priced : 0 ≤ max 0 (mathRound (ctx.monthlyPrice * 100)) := le_max_left _ _
    generalize max 0 (mathRound (ctx.monthlyPrice * 100)) = monthCents at accepted priced ⊢
    have whole : 0 ≤ monthCents * ctx.months := by positivity
    dsimp only at accepted
    generalize (if 0 ≤ rules.discountValue then ⌊rules.discountValue⌋ else ⌈rules.discountValue⌉) =
      offered at accepted
    split at accepted
    · cases accepted
    · cases accepted
      refine ⟨some_, rfl, rfl, discount_bounds whole, ?_, fun free => ?_⟩
      · dsimp only
        split_ifs
        · exact min_le_right _ _
        · lia
      · dsimp only at free ⊢
        by_cases byMonths : rules.discountType = .freeMonths
        · rw [if_pos byMonths] at free ⊢
          rw [byMonths]
          dsimp only
          have within : min offered (ctx.months - 1) ≤ ctx.months := (min_le_right _ _).trans (by lia)
          rw [max_eq_right (by positivity), min_eq_left]
          rw [mul_comm]
          exact mul_le_mul_of_nonneg_left within priced
        · rw [if_neg byMonths] at free
          exact absurd free (lt_irrefl 0)

/-! ### Lines and their totals -/

def lineTotal (vatRate : ℚ) (line : RentLine) : ℤ :=
  (lineCents line.quantity (euros line.unitPrice) vatRate).totalCents

theorem inputs_total {vatRate : ℚ} {invoice : RentInvoice} {totals : Totals}
    (computed : computeTotals (invoice.inputs vatRate) = .ok totals) :
    totals.total = (invoice.items.map (lineTotal vatRate)).sum := by
  rw [computeTotals_total computed, RentInvoice.inputs, List.map_map]
  rfl

theorem roundHalfAway_tax (cents hundredths : ℕ) :
    roundHalfAway (cents * (hundredths / 100 : ℚ) / 100) = mathRound (cents * (hundredths / 100 : ℚ) / 100) := by
  have nonneg : (0 : ℚ) ≤ cents * (hundredths / 100 : ℚ) / 100 := by positivity
  have place : cents * (hundredths / 100 : ℚ) / 100 + 1 / 2 = ((cents * hundredths + 5000 : ℕ) : ℚ) / 10000 := by
    push_cast
    ring
  rw [roundHalfAway_of_nonneg nonneg, mathRound, add_right_comm, place, Int.floor_eq_iff]
  generalize cents * hundredths + 5000 = n
  have low : ((n / 10000 : ℕ) : ℚ) * 10000 ≤ n := by exact_mod_cast Nat.div_mul_le_self n 10000
  have high : (n : ℚ) + 1 ≤ ((n / 10000 : ℕ) : ℚ) * 10000 + 10000 := by
    exact_mod_cast (by omega : n + 1 ≤ n / 10000 * 10000 + 10000)
  have floor : ⌊(n : ℚ) / 10000⌋ = ((n / 10000 : ℕ) : ℤ) := by
    rw [Int.floor_eq_iff, Int.cast_natCast]
    constructor <;> linarith
  rw [floor, Int.cast_natCast]
  constructor <;> linarith

theorem lineTotal_one {cents : ℤ} (nonneg : 0 ≤ cents) (hundredths : ℕ) :
    lineTotal (hundredths / 100) ⟨1, cents⟩ = centsWithVat (hundredths / 100) cents := by
  obtain ⟨n, rfl⟩ := Int.eq_ofNat_of_zero_le nonneg
  have whole : ((n : ℤ) * (100 + (hundredths / 100 : ℚ)) / 100 : ℚ) =
      n * (hundredths / 100 : ℚ) / 100 + ((n : ℤ) : ℚ) := by
    push_cast
    ring
  rw [lineTotal, Int.cast_one, lineCents_euros, centsWithVat, whole, mathRound_add_intCast, Int.cast_natCast,
    roundHalfAway_tax, add_comm]

theorem centsWithVat_zero (vatRate : ℚ) : centsWithVat vatRate 0 = 0 := by
  simp [centsWithVat]

theorem lineTotal_free (vatRate : ℚ) (quantity : ℤ) : lineTotal vatRate ⟨quantity, 0⟩ = 0 := by
  simp [lineTotal, lineCents, euros]

/-! ### The summary and the invoice -/

section

variable (args : FirstPaymentArgs)

theorem FirstPaymentArgs.context_cents : max 0 (mathRound (args.context.monthlyPrice * 100)) = args.fullPrice := by
  have cents : args.context.monthlyPrice * 100 = args.fullPrice := by
    rw [FirstPaymentArgs.context, euros, div_mul_cancel₀ _ (by norm_num)]
  rw [cents, mathRound_intCast, max_eq_right (show 0 ≤ args.fullPrice from args.priced)]

def FirstPaymentArgs.rentWithVat : ℤ :=
  match args.accepted with
  | some quote => centsWithVat args.vatRate (args.fullPrice * args.paidMonths - quote.discountAmount)
  | none =>
    if !args.preOpening && args.paidMonths = 1 then
      let rent := firstMonthCents args.fullPrice (firstMonthPlan args.startDate args.nextMonthFromDay)
      centsWithVat args.vatRate rent.1 + centsWithVat args.vatRate rent.2
    else centsWithVat args.vatRate (args.fullPrice * args.paidMonths)

theorem mathRound_euros (cents : ℤ) : mathRound (euros cents * 100) = cents := by
  rw [euros, div_mul_cancel₀ _ (by norm_num), mathRound_intCast]

theorem FirstPaymentArgs.accepted_fits {quote : CouponQuote} (accepted : args.accepted = some quote) :
    quote.Fits args.fullPrice args.paidMonths := by
  simp only [FirstPaymentArgs.accepted, Option.bind_eq_some_iff] at accepted
  obtain ⟨lookup, -, ok⟩ := accepted
  have quoted : lookup.quote args.context = .ok quote := by
    cases same : lookup.quote args.context with
    | error reason =>
      rw [same] at ok
      cases ok
    | ok q =>
      rw [same] at ok
      cases ok
      rfl
  unfold CouponLookup.quote at quoted
  split at quoted
  · cases quoted
  · have fits := quoteCoupon_fits quoted
    rwa [args.context_cents] at fits

theorem FirstPaymentArgs.subtotal_nonneg : 0 ≤ args.fullPrice * args.paidMonths := by
  have some_ := args.some_
  have paid : 0 ≤ args.paidMonths := by
    unfold FirstPaymentArgs.paidMonths
    split_ifs <;> lia
  exact mul_nonneg args.priced paid

theorem quoteFirstPayment_total : (quoteFirstPayment args).totalToPay = args.rentWithVat + args.deposit := by
  unfold quoteFirstPayment buildFirstPaymentQuote FirstPaymentArgs.rentWithVat
  dsimp only
  rw [mathRound_euros, mathRound_euros]
  cases accepted : args.accepted with
  | some quote =>
    have fits := args.accepted_fits accepted
    have whole := fits.subtotal
    have bounds := fits.discount
    rw [whole] at bounds
    simp only [Option.isNone_some, Bool.and_false, Bool.false_and, Bool.false_eq_true, if_false, Option.map_none,
      mathRound_euros, max_eq_right bounds.1, min_eq_left bounds.2, zero_mul, mathRound_zero, add_zero]
  | none =>
    by_cases monthly : (!args.preOpening && decide (args.paidMonths = 1)) = true
    · have plan : (!args.preOpening && (decide (args.paidMonths = 1) && true) && decide (args.paidMonths = 1)) =
          true := by
        simpa using monthly
      simp only [Option.isNone_none, plan, monthly, if_true, Option.map_some, zero_mul, mathRound_zero, add_zero]
    · have plan : (!args.preOpening && (decide (args.paidMonths = 1) && true) && decide (args.paidMonths = 1)) ≠
          true := by
        simpa using monthly
      have priced := args.subtotal_nonneg
      simp only [Option.isNone_none, plan, monthly, Bool.false_eq_true, if_false, Option.map_none, zero_mul, mathRound_zero, add_zero,
        max_self, min_eq_left priced, sub_zero]

theorem FirstPaymentArgs.contract_eq {c : Contract} (made : args.contract = .ok c) :
    c = args.contractWith args.accepted := by
  unfold FirstPaymentArgs.contract at made
  unfold FirstPaymentArgs.accepted
  split at made
  · rename_i none_
    cases made
    rw [none_]
    rfl
  · rename_i lookup given
    cases quoted : lookup.quote args.context with
    | error reason =>
      rw [quoted] at made
      cases made
    | ok quote =>
      rw [quoted] at made
      cases made
      rw [given, Option.bind_some, quoted]
      rfl

section

variable (redeemed : Option CouponQuote)

theorem isPendingPreOpening_contractWith : (args.contractWith redeemed).isPendingPreOpening = args.preOpening :=
  Bool.and_true _

theorem firstInvoicePlan_preOpening (before : args.preOpening = true) :
    (firstInvoicePlan args.nextMonthFromDay (args.contractWith redeemed)).items =
      [⟨1, args.fullPrice - match redeemed with
        | some quote => min quote.discountAmount args.fullPrice
        | none => 0⟩] := by
  rw [firstInvoicePlan, if_pos (by rw [isPendingPreOpening_contractWith, before])]
  cases redeemed <;> rfl

theorem firstInvoicePlan_redeemed (open_ : args.preOpening = false) (quote : CouponQuote) :
    (firstInvoicePlan args.nextMonthFromDay (args.contractWith (some quote))).items =
      if 0 < quote.freeMonths then
        [⟨1, args.fullPrice * (args.paidMonths - min quote.freeMonths (args.paidMonths - 1))⟩,
          ⟨min quote.freeMonths (args.paidMonths - 1), 0⟩]
      else [⟨1, args.fullPrice * args.paidMonths -
        min quote.discountAmount (args.fullPrice * args.paidMonths)⟩] := by
  rw [firstInvoicePlan, if_neg (by rw [isPendingPreOpening_contractWith, open_]; decide),
    if_pos (.inr (.inr rfl))]
  exact List.append_nil _

theorem firstInvoicePlan_plain (open_ : args.preOpening = false) :
    (firstInvoicePlan args.nextMonthFromDay (args.contractWith none)).items =
      if 1 < args.paidMonths then [⟨1, args.fullPrice * args.paidMonths⟩]
      else
        let plan := firstMonthPlan args.startDate args.nextMonthFromDay
        ⟨1, (firstMonthCents args.fullPrice plan).1⟩ ::
          if plan.includesNextMonth then [⟨1, (firstMonthCents args.fullPrice plan).2⟩] else [] := by
  rw [firstInvoicePlan, if_neg (by rw [isPendingPreOpening_contractWith, open_]; decide)]
  by_cases many : 1 < args.paidMonths
  · rw [if_pos many, if_pos (.inr (.inl many))]
    have whole : mathRound ((args.fullPrice * args.paidMonths : ℤ) * (1 - 0 / 100)) =
        args.fullPrice * args.paidMonths := by
      rw [zero_div, sub_zero, mul_one, mathRound_intCast]
    show [RentLine.mk 1 (mathRound ((args.fullPrice * args.paidMonths : ℤ) * (1 - 0 / 100)))] ++ [] = _
    rw [whole, List.append_nil]
  · rw [if_neg many, if_neg]
    · exact List.append_nil _
    · rintro (prepaid | several | coupon)
      · exact absurd prepaid (lt_irrefl 1)
      · exact many several
      · cases coupon

end

theorem firstInvoice_rent :
    ((firstInvoicePlan args.nextMonthFromDay (args.contractWith args.accepted)).items.map
      (lineTotal args.vatRate)).sum = args.rentWithVat := by
  have one : ∀ {cents : ℤ}, 0 ≤ cents → lineTotal args.vatRate ⟨1, cents⟩ = centsWithVat args.vatRate cents :=
    fun nonneg => lineTotal_one nonneg args.vatHundredths
  have priced : 0 ≤ args.fullPrice := args.priced
  have whole := args.subtotal_nonneg
  unfold FirstPaymentArgs.rentWithVat
  cases accepted : args.accepted with
  | some quote =>
    have fits := args.accepted_fits accepted
    have bounds := fits.discount
    rw [fits.subtotal] at bounds
    dsimp only
    cases before : args.preOpening with
    | true =>
      have month : args.paidMonths = 1 := by rw [FirstPaymentArgs.paidMonths, before, if_pos rfl]
      rw [month, mul_one] at bounds ⊢
      rw [firstInvoicePlan_preOpening args _ before, List.map_singleton, List.sum_singleton]
      dsimp only
      rw [min_eq_left bounds.2, one (by lia)]
    | false =>
      rw [firstInvoicePlan_redeemed args before]
      split_ifs with free
      · rw [min_eq_left fits.leaves, fits.free free, List.map_cons, List.map_singleton, List.sum_cons,
          List.sum_singleton, lineTotal_free, add_zero, one (mul_nonneg priced (by have := fits.leaves; lia))]
        congr 1
        ring
      · rw [List.map_singleton, List.sum_singleton, min_eq_left bounds.2, one (by lia)]
  | none =>
    dsimp only
    cases before : args.preOpening with
    | true =>
      have month : args.paidMonths = 1 := by rw [FirstPaymentArgs.paidMonths, before, if_pos rfl]
      rw [firstInvoicePlan_preOpening args _ before, month]
      simp [one priced]
    | false =>
      have some_ := args.some_
      have paid : args.paidMonths = args.months := by
        rw [FirstPaymentArgs.paidMonths, before, if_neg Bool.false_ne_true]
      rw [firstInvoicePlan_plain args before]
      by_cases many : 1 < args.paidMonths
      · rw [if_pos many, if_neg (by simp; lia), List.map_singleton, List.sum_singleton, one whole]
      · have bounds := firstMonthCents_bounds priced args.startDate args.nextMonthFromDay
        rw [if_neg many, if_pos (by simp; lia)]
        have next := firstMonthCents_snd args.fullPrice (firstMonthPlan args.startDate args.nextMonthFromDay)
        dsimp only
        rw [List.map_cons, List.sum_cons, one bounds.1]
        split_ifs with includes
        · rw [if_pos includes] at next
          rw [List.map_singleton, List.sum_singleton, next, one priced]
        · rw [if_neg includes] at next
          rw [List.map_nil, List.sum_nil, next, centsWithVat_zero]

theorem issueIfMissing_created : ∃ invoice : RentInvoice,
    invoice.items = (firstInvoicePlan args.nextMonthFromDay (args.contractWith args.accepted)).items ∧
      (issueIfMissing args.nextMonthFromDay true true ⟨args.contractWith args.accepted, .empty⟩).invoices.values =
        invoice :: if 0 < args.deposit then [depositReceipt args.deposit] else [] := by
  have untouched : ∀ lines : List RentLine, discountLines 0 lines = lines := by
    intro lines
    cases lines <;> rfl
  refine ⟨{ FirstInvoicePlan.draft (firstInvoicePlan args.nextMonthFromDay (args.contractWith args.accepted))
    .none with status := .issued }, ?_, ?_⟩
  · show discountLines 0 _ ++ _ = _
    rw [untouched, List.take_append_drop]
  · have noCredit : ∀ maxCents, claimContractCredit maxCents (args.contractWith args.accepted) =
        (.none, args.contractWith args.accepted) := by
      intro maxCents
      unfold claimContractCredit readContractCredit
      rw [if_pos (show (args.contractWith args.accepted).pendingCreditAmount ≤ 0 from le_rfl), ite_self]
    unfold issueIfMissing firstPlan
    simp only [Table.values_empty, List.any_nil, Bool.not_true, Bool.or_false, Bool.false_eq_true, if_false,
      noCredit, if_true, Bool.true_and, decide_eq_true_eq]
    change (if 0 < args.deposit then _ else _ : Table InvoiceId RentInvoice).values = _
    split_ifs
    · rw [Table.values_push, Table.values_push]
      rfl
    · rw [Table.values_push]
      rfl

end

def freeMonthCoupon : CouponRow where
  code := "GRATIS"
  name := "Un mes gratis"
  discountType := .freeMonths
  discountValue := 1
  minMonths := 3
  minAmount := none
  unitTypeIds := []
  facilityIds := []
  newCustomersOnly := false
  oncePerCustomer := false
  preOpeningOnly := false
  maxUses := none
  usedCount := 0
  validFrom := none
  validUntil := none
  isActive := true

def threeMonths : FirstPaymentArgs where
  priceMonthly := 10000
  discountAmount := 0
  priced := by decide
  months := 3
  some_ := by decide
  vatHundredths := 2100
  deposit := 5000
  deposit_nonneg := by decide
  unitTypeId := 1
  facilityId := 1
  coupon := some ⟨"GRATIS", some freeMonthCoupon⟩
  isNewCustomer := none
  usedByCustomer := none
  publicMessages := false
  startDate := Gregorian.date 2026 1 10
  nextMonthFromDay := some 20
  preOpening := false
  now := 0

end StorageOS
