import Mathlib.Algebra.BigOperators.Ring.Finset
import StorageOS.Billing.CreditedGross
import StorageOS.Billing.Requests

/-! The invoice of a subscription payment (`billing-saas/platform-invoices.service.ts`), in the platform's own
numbering and as an invoice of the own tenant, where the base of each line is billed again with its tax. Amounts are
in cents. -/

namespace StorageOS

section

variable {taxRate : ℚ}

/-- The rounded tax is off by less than half of what a cent of the net price has as its gross. -/
theorem ColumnRate.tax_close (rate : ColumnRate taxRate) (net : ℤ) :
    |(roundHalfAway (net * taxRate / 100) : ℚ) - net * taxRate / 100| < (1 + taxRate / 100) / 2 := by
  have low := rate.nonneg
  have ofNonneg : ∀ n : ℤ, 0 ≤ n →
      |(roundHalfAway (n * taxRate / 100) : ℚ) - n * taxRate / 100| < (1 + taxRate / 100) / 2 := by
    intro n nonneg
    rcases low.eq_or_lt with rfl | positive
    · simp
    · rw [rate.tax_eq nonneg]
      obtain ⟨below, above⟩ := mathRound_eq_iff.mp (rfl : mathRound (n * taxRate / 100) = _)
      rw [abs_lt]
      constructor <;> linarith
  rcases le_total 0 net with nonneg | negative
  · exact ofNonneg net nonneg
  · have mirrored := ofNonneg (-net) (by omega)
    have opposite : ((-net : ℤ) : ℚ) * taxRate / 100 = -(net * taxRate / 100) := by
      push_cast
      ring
    rw [opposite, roundHalfAway_neg, Int.cast_neg, ← neg_sub', abs_neg] at mirrored
    exact mirrored

theorem ColumnRate.nearestNet_grossOf (rate : ColumnRate taxRate) (net : ℤ) :
    nearestNet taxRate (grossOf taxRate net) = net := by
  have low := rate.nonneg
  have positive : (0 : ℚ) < 1 + taxRate / 100 := by linarith
  obtain ⟨below, above⟩ := abs_lt.mp (rate.tax_close net)
  rw [nearestNet, mathRound_eq_iff, grossOf, le_div_iff₀ positive, div_lt_iff₀ positive]
  push_cast
  constructor <;> linarith

end

namespace PlatformInvoicesService

/-- A line of a Stripe invoice, with the names of the plan and of the add-on that its price is of. -/
structure StripeLine where
  amount : ℤ
  quantity : Option ℕ
  planName : Option String
  addonName : Option String
  description : Option String
  proration : Bool

structure StripeInvoice where
  total : ℤ
  totalExcludingTax : Option ℤ
  lines : List StripeLine

/-- A payment, with its invoice when Stripe has one that can be read. -/
structure SubscriptionPayment where
  amount : ℤ
  description : Option String
  stripe : Option StripeInvoice

/-- `LineData`. -/
structure PlatformInvoiceLine where
  kind : String
  description : String
  quantity : ℕ
  unitAmount : ℤ
  baseAmount : ℤ
  taxRate : ℚ
  taxAmount : ℤ
  total : ℤ
  position : ℕ
  deriving DecidableEq

structure PlatformInvoiceAmounts where
  baseAmount : ℤ
  taxAmount : ℤ
  total : ℤ
  lines : List PlatformInvoiceLine

/-- `quantity || 1`. -/
def orOne (quantity : ℕ) : ℕ := if quantity = 0 then 1 else quantity

/-- What a line without tax is multiplied by to have its part of the tax. -/
def StripeInvoice.grossFactor (invoice : StripeInvoice) : ℚ :=
  match invoice.totalExcludingTax with
  | some exclTax => if 0 < exclTax ∧ exclTax < invoice.total then invoice.total / exclTax else 1
  | none => 1

/-- `split`. -/
def splitLine (taxRate : ℚ) (grossTotal : ℤ) (quantity : ℕ) (kind description : String) (position : ℕ) :
    PlatformInvoiceLine :=
  let base := nearestNet taxRate grossTotal
  { kind, description, quantity
    unitAmount := mathRound (grossTotal / orOne quantity)
    baseAmount := base
    taxRate
    taxAmount := grossTotal - base
    total := grossTotal
    position }

def StripeInvoice.gross (invoice : StripeInvoice) (line : StripeLine) : ℤ :=
  mathRound (line.amount * invoice.grossFactor)

def StripeInvoice.platformLine (invoice : StripeInvoice) (taxRate : ℚ) (i : ℕ) (line : StripeLine) :
    PlatformInvoiceLine :=
  let kind := if line.addonName.isSome then "addon" else if line.proration then "adjustment" else "plan"
  let description := ((line.addonName.or line.planName).or line.description).getD
    (if line.proration then "Ajuste" else "Suscripción")
  splitLine taxRate (invoice.gross line) (line.quantity.getD 1) kind description i

/-- The invoice that the lines are read from. -/
def SubscriptionPayment.read (payment : SubscriptionPayment) : Option StripeInvoice :=
  payment.stripe.filter fun invoice => !invoice.lines.isEmpty

def buildLines (payment : SubscriptionPayment) (taxRate : ℚ) : List PlatformInvoiceLine :=
  match payment.read with
  | some invoice => invoice.lines.mapIdx (invoice.platformLine taxRate)
  | none =>
    let base := nearestNet taxRate payment.amount
    [{ kind := if "Add-on:".toList <+: (payment.description.getD "").toList then "addon" else "plan"
       description := payment.description.getD "Suscripción"
       quantity := 1
       unitAmount := base
       baseAmount := base
       taxRate
       taxAmount := payment.amount - base
       total := payment.amount
       position := 0 }]

/-- The amounts of `issueForPayment`, in the platform's own numbering. -/
def issueForPayment (payment : SubscriptionPayment) (taxRate : ℚ) : PlatformInvoiceAmounts :=
  let base := nearestNet taxRate payment.amount
  ⟨base, payment.amount - base, payment.amount, buildLines payment taxRate⟩

def ownTenantItems (lines : List PlatformInvoiceLine) : List InvoiceItemInput :=
  lines.map fun l =>
    { description := l.description
      quantity := orOne l.quantity
      unitPrice := euros (mathRound (l.baseAmount / orOne l.quantity))
      taxRate := l.taxRate
      taxCategory := none
      relatedContractId := none }

def billedTotal (items : List InvoiceItemInput) : ℤ :=
  (items.map fun it => (lineCents it.quantity it.unitPrice it.taxRate).totalCents).sum

/-! ### What is collected is billed -/

/-- The lines of the invoice add up to its total, which is what was collected, on both ways. -/
structure BillsCollected (payment : SubscriptionPayment) (taxRate : ℚ) : Prop where
  total : (issueForPayment payment taxRate).total = payment.amount
  lines : ((issueForPayment payment taxRate).lines.map PlatformInvoiceLine.total).sum =
    (issueForPayment payment taxRate).total
  ownTenant : billedTotal (ownTenantItems (buildLines payment taxRate)) = payment.amount

/-- The lines of the payment add up to it, before any of them is rounded. -/
def SubscriptionPayment.Sums (payment : SubscriptionPayment) : Prop :=
  ∀ invoice ∈ payment.read, (invoice.lines.map fun line => (line.amount : ℚ) * invoice.grossFactor).sum = payment.amount

/-- The quantities and the amounts that the payment is made of. -/
def SubscriptionPayment.shares (payment : SubscriptionPayment) : List (ℕ × ℤ) :=
  match payment.read with
  | some invoice => invoice.lines.map fun line => (orOne (line.quantity.getD 1), invoice.gross line)
  | none => [(1, payment.amount)]

/-- The cents that rounding adds to the lines in all. -/
def SubscriptionPayment.roundingSum (payment : SubscriptionPayment) : ℚ :=
  match payment.read with
  | some invoice =>
    (invoice.lines.map fun line => (invoice.gross line : ℚ) - line.amount * invoice.grossFactor).sum
  | none => 0

open Classical in
/-- What a line is off: nothing where some unit price in whole cents has its amount as the gross, and where none has,
what the gross of the nearest one is beyond it. -/
noncomputable def missedShare (taxRate : ℚ) (share : ℕ × ℤ) : ℤ :=
  if ∃ unit : ℤ, grossOf taxRate (share.1 * unit) = share.2 then 0
  else grossOf taxRate (share.1 * mathRound (nearestNet taxRate share.2 / share.1)) - share.2

section

variable {taxRate : ℚ} {payment : SubscriptionPayment}

theorem lineCents_total (quantity : ℕ) (unit : ℤ) :
    (lineCents quantity (euros unit) taxRate).totalCents = grossOf taxRate (quantity * unit) := by
  have whole : (quantity : ℚ) * euros unit * 100 = ((quantity * unit : ℤ) : ℚ) := by
    rw [euros]
    push_cast
    ring
  simp only [lineCents, grossOf, whole, roundHalfAway_intCast]

/-- The gross of the nearest unit price is beyond the amount by what the line is off. -/
theorem grossOf_nearest (rate : ColumnRate taxRate) {share : ℕ × ℤ} (some_ : share.1 ≠ 0) :
    grossOf taxRate (share.1 * mathRound (nearestNet taxRate share.2 / share.1)) =
      share.2 + missedShare taxRate share := by
  rw [missedShare]
  split
  · rename_i exact_
    obtain ⟨unit, same⟩ := exact_
    have whole : ((share.1 * unit : ℤ) : ℚ) / share.1 = unit := by
      push_cast
      field_simp
    rw [← same, rate.nearestNet_grossOf, whole, mathRound_intCast, add_zero]
  · omega

theorem orOne_ne_zero (quantity : ℕ) : orOne quantity ≠ 0 := by
  rw [orOne]
  split
  · decide
  · assumption

theorem billedTotal_eq (rate : ColumnRate taxRate) : billedTotal (ownTenantItems (buildLines payment taxRate)) =
    (payment.shares.map fun share => share.2 + missedShare taxRate share).sum := by
  rw [buildLines, SubscriptionPayment.shares, billedTotal, ownTenantItems]
  cases payment.read with
  | none =>
    simp only [List.map_cons, List.map_nil, List.sum_cons, List.sum_nil]
    have line := @grossOf_nearest taxRate rate (1, payment.amount) Nat.one_ne_zero
    rw [← line]
    exact congrArg (· + (0 : ℤ)) (lineCents_total _ _)
  | some invoice =>
    rw [List.map_map, List.map_map]
    refine congrArg List.sum (List.ext_getElem (by simp) fun i _ _ => ?_)
    simp only [List.getElem_map, List.getElem_mapIdx, Function.comp_apply]
    exact (lineCents_total _ _).trans (@grossOf_nearest taxRate rate (_, _) (orOne_ne_zero _))

theorem lines_total : ((buildLines payment taxRate).map PlatformInvoiceLine.total).sum =
    (payment.shares.map Prod.snd).sum := by
  rw [buildLines, SubscriptionPayment.shares]
  cases payment.read with
  | none => rfl
  | some invoice =>
    rw [List.map_map]
    refine congrArg List.sum (List.ext_getElem (by simp) fun i _ _ => ?_)
    simp only [List.getElem_map, List.getElem_mapIdx, Function.comp_apply]
    rfl

theorem shares_sum_iff (sums : payment.Sums) :
    (payment.shares.map Prod.snd).sum = payment.amount ↔ payment.roundingSum = 0 := by
  rw [SubscriptionPayment.Sums] at sums
  rw [SubscriptionPayment.shares, SubscriptionPayment.roundingSum]
  cases given : payment.read with
  | none => simp
  | some invoice =>
    have whole := sums invoice given
    dsimp only
    have parted := invoice.lines.sum_map_add (f := fun line => (invoice.gross line : ℚ) -
      line.amount * invoice.grossFactor) (g := fun line => line.amount * invoice.grossFactor)
    simp only [sub_add_cancel, whole] at parted
    have cast : (invoice.lines.map fun line => (invoice.gross line : ℚ)).sum =
        (((invoice.lines.map fun line => invoice.gross line).sum : ℤ) : ℚ) := by
      rw [Int.cast_list_sum, List.map_map]
      rfl
    rw [cast] at parted
    rw [List.map_map]
    constructor
    · intro same
      have total : (((invoice.lines.map fun line => invoice.gross line).sum : ℤ) : ℚ) = payment.amount :=
        congrArg Int.cast same
      linarith
    · intro nothing
      rw [nothing, zero_add] at parted
      exact Int.cast_injective parted

end

def paidOnce (amount : ℤ) : SubscriptionPayment := ⟨amount, none, none⟩

theorem columnRate_21 : ColumnRate 21 := ⟨by norm_num, by norm_num, 2100, by norm_num⟩

def stripeLine (amount : ℤ) (quantity : ℕ) : StripeLine := ⟨amount, some quantity, none, none, none, false⟩

end PlatformInvoicesService

end StorageOS
