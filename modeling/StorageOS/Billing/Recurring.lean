import StorageOS.Billing.Rows
import StorageOS.Common.Money
import StorageOS.Lib.Gregorian
import StorageOS.Lib.Tiling

/-! The invoices that the application issues by itself for the rent of a contract: the first
invoice when the contract is signed and the invoices of the monthly job, with the credit of the
contract taken from both. -/

namespace StorageOS

open Gregorian

inductive ContractStatus
  | draft
  | active
  | ending
  | ended
  | cancelled
  deriving DecidableEq

structure Coupon where
  freeMonths : ℤ
  discountAmount : ℤ
  deriving DecidableEq

/-- The columns of a contract that decide what is billed and until when. -/
structure Contract where
  status : ContractStatus
  deletedAt : Option Instant
  customerIsTest : Bool
  preOpening : Bool
  preOpeningStartedAt : Option Instant
  startDate : Date
  endDate : Option Date
  endDateBeforeEnding : Option Date
  termMonths : Option ℤ
  autoRenew : Bool
  cancellationNoticeDays : ℤ
  billingStartsOn : Option Date
  billingIntervalMonths : ℤ
  firstPaymentMonths : ℤ
  prepayDiscountPct : ℚ
  priceMonthly : ℤ
  discountAmount : ℤ
  insurancePrice : Option ℤ
  depositAmount : ℤ
  freeMonthsRemaining : ℤ
  pendingCreditAmount : ℤ
  pendingCreditReason : Option String
  coupon : Option Coupon
  deriving DecidableEq

/-- What an invoice spent of its contract, to be given back when it is cancelled. -/
structure ConsumedBenefits where
  freeMonth : Bool
  creditCents : ℤ
  creditReason : Option String
  deriving DecidableEq

structure RentLine where
  quantity : ℤ
  unitPrice : ℤ
  deriving DecidableEq

/-- The columns of an invoice of a contract that automatic billing reads and writes. Its period is
set with both dates or not at all. -/
structure RentInvoice where
  kind : InvoiceKind
  status : InvoiceStatus
  period : Option Period
  items : List RentLine
  consumedBenefits : Option ConsumedBenefits
  deletedAt : Option Instant
  deriving DecidableEq

structure Lease where
  contract : Contract
  invoices : Table InvoiceId RentInvoice
  deriving DecidableEq

/-- A reservation made before its facility opens that has not started. -/
def Contract.isPendingPreOpening (c : Contract) : Bool := c.preOpening && c.preOpeningStartedAt.isNone

/-- `Math.round`, with halves up. -/
def mathRound (x : ℚ) : ℤ := ⌊x + 1 / 2⌋

/-! ### Months -/

/-- The same day some months later, or the last day of a shorter month. -/
def addMonths (d : Date) (months : ℤ) : Date :=
  let first := monthStart (monthOf d + months)
  let lastDay := monthStart (monthOf d + months + 1) - first
  first + min (day d) lastDay - 1

/-- The same day some months later, where a day the month does not have runs into the next. -/
def BillingJobs.addMonths (d : Date) (months : ℤ) : Date :=
  monthStart (monthOf d + months) + day d - 1

def daysBetween (a b : Date) : ℤ := b - a + 1

structure FirstMonthPlan where
  periodStart : Date
  periodEnd : Date
  days : ℤ
  daysInMonth : ℤ
  fullFirstMonth : Bool
  includesNextMonth : Bool
  nextMonthStart : Option Date
  billingStartsOn : Date
  deriving DecidableEq

/-- What the first monthly payment covers: to the end of the month of entry, and the next month when
the entry is late in the month. -/
def firstMonthPlan (startDate : Date) (nextMonthFromDay : Option ℤ) : FirstMonthPlan :=
  let month := monthOf startDate
  let d := day startDate
  let daysInMonth := monthStart (month + 1) - monthStart month
  let fullFirstMonth := d == 1
  let includesNextMonth := !fullFirstMonth && nextMonthFromDay.any fun n => n ≠ 0 && n ≤ d
  { periodStart := startDate
    periodEnd := if includesNextMonth then monthStart (month + 2) - 1 else monthStart (month + 1) - 1
    days := daysInMonth - d + 1
    daysInMonth := daysInMonth
    fullFirstMonth := fullFirstMonth
    includesNextMonth := includesNextMonth
    nextMonthStart := if includesNextMonth then some (monthStart (month + 1)) else none
    billingStartsOn := if includesNextMonth then monthStart (month + 2) else monthStart (month + 1) }

def firstMonthCents (monthCents : ℤ) (plan : FirstMonthPlan) : ℤ × ℤ :=
  (if plan.fullFirstMonth then monthCents
    else mathRound (monthCents * plan.days / plan.daysInMonth),
   if plan.includesNextMonth then monthCents else 0)

/-! ### The credit of a contract -/

/-- The pending discount of a contract as read before it is taken, and the part to take. -/
structure CreditRead where
  available : ℤ
  cents : ℤ
  reason : Option String
  deriving DecidableEq

structure ClaimedContractCredit where
  cents : ℤ
  reason : Option String
  deriving DecidableEq

def ClaimedContractCredit.none : ClaimedContractCredit := ⟨0, .none⟩

def readContractCredit (maxCents : ℤ) (c : Contract) : Option CreditRead :=
  if maxCents ≤ 0 then none
  else if c.pendingCreditAmount ≤ 0 then none
  else some
    ⟨c.pendingCreditAmount, min c.pendingCreditAmount maxCents, c.pendingCreditReason⟩

/-- Takes the part that was read when the amount is still the one read. -/
def takeContractCredit (read : CreditRead) (c : Contract) : ClaimedContractCredit × Contract :=
  if c.pendingCreditAmount = read.available then
    let left := read.available - read.cents
    (⟨read.cents, read.reason⟩,
      { c with
        pendingCreditAmount := left
        pendingCreditReason := if left = 0 then none else c.pendingCreditReason })
  else (.none, c)

/-- Takes credit of the contract with no other process in between. -/
def claimContractCredit (maxCents : ℤ) (c : Contract) : ClaimedContractCredit × Contract :=
  match readContractCredit maxCents c with
  | none => (.none, c)
  | some read => takeContractCredit read c

def ClaimedContractCredit.restore (credit : ClaimedContractCredit) (c : Contract) : Contract :=
  if 0 < credit.cents then
    { c with
      pendingCreditAmount := c.pendingCreditAmount + credit.cents
      pendingCreditReason := credit.reason }
  else c

/-! ### The monthly job -/

/-- The calendar month a run bills, unless it is given another period. -/
def resolvePeriod (today : Date) (given : Option Period) : Period :=
  given.getD ⟨monthStart (monthOf today), monthStart (monthOf today + 1) - 1⟩

def Contract.isBilled (c : Contract) : Bool :=
  (c.status = .active || c.status = .ending) && c.deletedAt.isNone && !c.customerIsTest &&
    !c.isPendingPreOpening

def Contract.billingStart (c : Contract) : Date :=
  match c.billingStartsOn with
  | some billingFrom => if c.startDate < billingFrom then billingFrom else c.startDate
  | none => c.startDate

def lastPeriodEnd (invoices : List RentInvoice) : Option Date :=
  (invoices.filterMap fun i =>
    if i.status ≠ .cancelled && i.deletedAt.isNone && i.kind = .invoice then i.period.map Period.last
    else none).max?

/-- The period that a run bills of a contract, before the end of the contract cuts it: the month
from the start of the contract on, or the next prepaid period once it has begun. -/
def recurringStart (month : Period) (l : Lease) : Option Period :=
  let c := l.contract
  if 1 < c.billingIntervalMonths then
    let cStart := match lastPeriodEnd l.invoices.values with
      | some last => last + 1
      | none => c.billingStartsOn.getD c.startDate
    if month.last < cStart then none
    else some ⟨cStart, BillingJobs.addMonths cStart c.billingIntervalMonths - 1⟩
  else if month.last < c.billingStart then none
  else some ⟨if month.first < c.billingStart then c.billingStart else month.first, month.last⟩

def Contract.clip (c : Contract) (p : Period) : Option Period :=
  match c.endDate with
  | some e =>
    if e < p.first then none else if e < p.last then some { p with last := e } else some p
  | none => some p

/-- An invoice of the contract, cancelled ones included, has days of the period. -/
def Lease.already (l : Lease) (p : Period) : Bool :=
  l.invoices.values.any fun i => i.deletedAt.isNone && i.period.any fun q => q.Overlaps p

/-- The period that a run bills of a contract, with the days of the period before the end of the
contract cut it. -/
def recurringPeriod (month : Period) (l : Lease) : Option (Period × ℤ) :=
  match recurringStart month l with
  | none => none
  | some whole =>
    let fullDays := if 1 < l.contract.billingIntervalMonths then daysBetween whole.first whole.last
      else daysBetween month.first month.last
    match l.contract.clip whole with
    | none => none
    | some p => if l.already p then none else some (p, fullDays)

def factor (p : Period) (fullDays : ℤ) : ℚ :=
  let billedDays := daysBetween p.first p.last
  if fullDays ≤ billedDays then 1 else billedDays / fullDays

def Contract.isFreeMonth (c : Contract) : Bool :=
  c.billingIntervalMonths == 1 && 0 < c.freeMonthsRemaining

def Contract.baseRent (c : Contract) (p : Period) (fullDays : ℤ) : ℤ :=
  if c.isFreeMonth then 0
  else
    let effectivePrice := c.priceMonthly - c.discountAmount
    let prepayPct := if 1 < c.billingIntervalMonths then c.prepayDiscountPct else 0
    mathRound (effectivePrice * c.billingIntervalMonths * (1 - prepayPct / 100) * factor p fullDays)

/-- A referral of the customer with a pending reward, a percentage of the rent or an amount in euros,
and whether the reward is still pending when it is set aside. -/
structure PendingReferral where
  id : ℕ
  isPercentage : Bool
  rewardValue : ℚ
  stillPending : Bool
  deriving DecidableEq

/-- The referrals whose reward is set aside for an invoice, and their discount in cents. -/
structure ClaimedRewards where
  referralIds : List ℕ
  discountCents : ℤ
  deriving DecidableEq

def claimRewards (rentCents : ℤ) : ClaimedRewards → List PendingReferral → ClaimedRewards
  | claimed, [] => claimed
  | claimed, p :: rest =>
    let cents := if p.isPercentage then mathRound (rentCents * p.rewardValue / 100)
      else mathRound (p.rewardValue * 100)
    if cents ≤ 0 ∨ rentCents < claimed.discountCents + cents then claimRewards rentCents claimed rest
    else if !p.stillPending then claimRewards rentCents claimed rest
    else claimRewards rentCents
      ⟨claimed.referralIds ++ [p.id], claimed.discountCents + cents⟩ rest

def claimRewardsForInvoice (rentCents : ℤ) (pending : List PendingReferral) : ClaimedRewards :=
  if rentCents ≤ 0 then ⟨[], 0⟩ else claimRewards rentCents ⟨[], 0⟩ pending

/-- What a run is about to invoice: the contract as it was read, the period with its whole days and
the referrals with rewards for it. -/
structure RecurringPlan where
  contract : Contract
  period : Period
  fullDays : ℤ
  referrals : List PendingReferral
  deriving DecidableEq

def RecurringPlan.reward (plan : RecurringPlan) : ClaimedRewards :=
  claimRewardsForInvoice (plan.contract.baseRent plan.period plan.fullDays) plan.referrals

def RecurringPlan.rentBeforeCredit (plan : RecurringPlan) : ℤ :=
  plan.contract.baseRent plan.period plan.fullDays - plan.reward.discountCents

def RecurringPlan.draft (plan : RecurringPlan) (credit : ClaimedContractCredit) : RentInvoice where
  kind := .invoice
  status := .draft
  period := some plan.period
  items :=
    ⟨1, plan.rentBeforeCredit - credit.cents⟩ ::
      match plan.contract.insurancePrice with
      | some price =>
        if 0 < price then
          [⟨1, mathRound (price * plan.contract.billingIntervalMonths *
            factor plan.period plan.fullDays)⟩]
        else []
      | none => []
  consumedBenefits :=
    if plan.contract.isFreeMonth || 0 < credit.cents then
      some ⟨plan.contract.isFreeMonth, credit.cents, credit.reason⟩
    else none
  deletedAt := none

/-- The plan of a run for a contract, when there is something to invoice. -/
def recurringPlan (month : Period) (hasDefaultSeries : Bool) (referrals : List PendingReferral)
    (l : Lease) : Option RecurringPlan :=
  if l.contract.isBilled && hasDefaultSeries then
    (recurringPeriod month l).map fun (p, fullDays) => ⟨l.contract, p, fullDays, referrals⟩
  else none

def Contract.useFreeMonth (c : Contract) (isFreeMonth : Bool) : Contract :=
  if isFreeMonth then { c with freeMonthsRemaining := c.freeMonthsRemaining - 1 } else c

/-- A run for one contract that meets no failure. With automatic issuing the draft is issued. -/
def processGenerateRecurring (month : Period) (hasDefaultSeries autoIssue : Bool)
    (referrals : List PendingReferral) (l : Lease) : Lease :=
  match recurringPlan month hasDefaultSeries referrals l with
  | none => l
  | some plan =>
    let (credit, contract) := claimContractCredit plan.rentBeforeCredit l.contract
    let draft := plan.draft credit
    { contract := contract.useFreeMonth plan.contract.isFreeMonth
      invoices := l.invoices.push (if autoIssue then { draft with status := .issued } else draft) }

/-! ### The first invoice -/

/-- What the first invoice of a contract bills, how many of its lines are rent, and the day from
which the monthly job goes on when that is not the next month. -/
structure FirstInvoicePlan where
  period : Option Period
  items : List RentLine
  rentLineCount : ℕ
  billingStartsOn : Option Date
  deriving DecidableEq

def Contract.fullPrice (c : Contract) : ℤ := c.priceMonthly - c.discountAmount

def Contract.insuranceLine (c : Contract) (cents : ℤ → ℤ) : List RentLine :=
  match c.insurancePrice with
  | some price => if 0 < price then [⟨1, cents price⟩] else []
  | none => []

/-- A reservation before the opening pays its first month, which has no dates yet. -/
def preOpeningPlan (c : Contract) : FirstInvoicePlan where
  period := none
  items :=
    let discount := match c.coupon with
      | some coupon => min coupon.discountAmount c.fullPrice
      | none => 0
    ⟨1, c.fullPrice - discount⟩ :: c.insuranceLine id
  rentLineCount := 1
  billingStartsOn := none

def wholeMonthsPlan (months : ℤ) (c : Contract) : FirstInvoicePlan where
  period := some ⟨c.startDate, addMonths c.startDate months - 1⟩
  items :=
    let subtotal := c.fullPrice * months
    let rent := match c.coupon with
      | some coupon =>
        if 0 < coupon.freeMonths then
          let free := min coupon.freeMonths (months - 1)
          [⟨1, c.fullPrice * (months - free)⟩, ⟨free, 0⟩]
        else [⟨1, subtotal - min coupon.discountAmount subtotal⟩]
      | none =>
        let pct := if 1 < c.billingIntervalMonths then c.prepayDiscountPct else 0
        [⟨1, mathRound (subtotal * (1 - pct / 100))⟩]
    rent ++ c.insuranceLine fun price => price * months
  rentLineCount := 1
  billingStartsOn :=
    if c.billingIntervalMonths = 1 then some (addMonths c.startDate months - 1 + 1) else none

def monthlyPlan (nextMonthFromDay : Option ℤ) (c : Contract) : FirstInvoicePlan :=
  let plan := firstMonthPlan c.startDate nextMonthFromDay
  let rentCents := firstMonthCents c.fullPrice plan
  { period := some ⟨plan.periodStart, plan.periodEnd⟩
    items := ⟨1, rentCents.1⟩ :: (if plan.includesNextMonth then [⟨1, rentCents.2⟩] else []) ++
      c.insuranceLine fun price => (firstMonthCents price plan).1 + (firstMonthCents price plan).2
    rentLineCount := if plan.includesNextMonth then 2 else 1
    billingStartsOn := if plan.includesNextMonth then some plan.billingStartsOn else none }

def firstInvoicePlan (nextMonthFromDay : Option ℤ) (c : Contract) : FirstInvoicePlan :=
  let months :=
    if 1 < c.billingIntervalMonths then c.billingIntervalMonths else c.firstPaymentMonths
  if c.isPendingPreOpening then preOpeningPlan c
  else if 1 < c.billingIntervalMonths ∨ 1 < months ∨ c.coupon.isSome then wholeMonthsPlan months c
  else monthlyPlan nextMonthFromDay c

def FirstInvoicePlan.rentCentsTotal (plan : FirstInvoicePlan) : ℤ :=
  ((plan.items.take plan.rentLineCount).map fun line => line.unitPrice * line.quantity).foldl (· + ·) 0

def discountLines : ℤ → List RentLine → List RentLine
  | _, [] => []
  | remaining, line :: rest =>
    if remaining ≤ 0 then line :: rest
    else
      let lineCents := line.unitPrice * line.quantity
      let applied := min lineCents remaining
      ⟨1, lineCents - applied⟩ :: discountLines (remaining - applied) rest

def FirstInvoicePlan.draft (plan : FirstInvoicePlan) (credit : ClaimedContractCredit) :
    RentInvoice where
  kind := .invoice
  status := .draft
  period := plan.period
  items := discountLines credit.cents (plan.items.take plan.rentLineCount) ++
    plan.items.drop plan.rentLineCount
  consumedBenefits := if 0 < credit.cents then some ⟨false, credit.cents, credit.reason⟩ else none
  deletedAt := none

/-- The receipt for the deposit, which is not an invoice and has no period. -/
def depositReceipt (amount : ℤ) : RentInvoice where
  kind := .depositReceipt
  status := .issued
  period := none
  items := [⟨1, amount⟩]
  consumedBenefits := none
  deletedAt := none

/-- The plan of the first invoice of a contract that has no invoice. -/
def firstPlan (nextMonthFromDay : Option ℤ) (hasDefaultSeries : Bool) (l : Lease) :
    Option FirstInvoicePlan :=
  if (l.invoices.values.any fun i => i.deletedAt.isNone) || !hasDefaultSeries then none
  else some (firstInvoicePlan nextMonthFromDay l.contract)

def FirstInvoicePlan.deferBilling (plan : FirstInvoicePlan) (c : Contract) : Contract :=
  { c with billingStartsOn := plan.billingStartsOn <|> c.billingStartsOn }

/-- Issues the first invoice with no failure before it is issued. When issuing it fails the draft
stays, and the receipt for the deposit is not made. -/
def issueIfMissing (nextMonthFromDay : Option ℤ) (hasDefaultSeries issues : Bool) (l : Lease) :
    Lease :=
  match firstPlan nextMonthFromDay hasDefaultSeries l with
  | none => l
  | some plan =>
    let (credit, contract) := claimContractCredit plan.rentCentsTotal l.contract
    let draft := plan.draft credit
    let invoices := l.invoices.push (if issues then { draft with status := .issued } else draft)
    { contract := plan.deferBilling contract
      invoices := if issues && 0 < contract.depositAmount then
        invoices.push (depositReceipt contract.depositAmount) else invoices }

end StorageOS
