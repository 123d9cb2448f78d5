import StorageOS.Billing.RentLines
import StorageOS.Contracts.RentPrices

/-! The discount of a contract stays at or below its price. Every request that writes one of them compares the two
when it reads the contract, except a move to another unit, which takes the price that it is given. -/

namespace StorageOS

open Processes Transition

/-! ### What no request compares -/

/-- The writes that nothing has compared with the contract they meet: the price of a move, an amount which the
comparison counts in more cents than the column keeps, and a write on a contract that has changed since it was read. -/
def PriceCall.unchecked (c : PricedContract) : PriceCall → Bool
  | .writing data existing =>
    c.priceMonthly ≠ existing.priceMonthly || c.discountAmount ≠ existing.discountAmount ||
      data.priceMonthly.any fun price => column price < toCents price
  | .writingPrice priceMonthly existing =>
    c.discountAmount ≠ existing.discountAmount || column priceMonthly < toCents priceMonthly
  | .moving input => input.newPrice.isSome
  | _ => false

/-- The discount and the price of the contract after a write, in this order. -/
def PriceCall.amounts (c : PricedContract) : PriceCall → ℤ × ℤ
  | .writing data _ => (c.discountAfter data, c.priceAfter data)
  | .writingPrice priceMonthly _ => (c.discountAmount, column priceMonthly)
  | .moving input => (c.discountAmount, input.newPrice.getD c.priceMonthly)
  | _ => (c.discountAmount, c.priceMonthly)

/-- A write that nothing has compared leaves a price that is not below the discount. -/
def priceFits (c : PricedContract) (call : PriceCall) (input : PriceInput) : Bool :=
  input.fails || !call.unchecked c || (call.amounts c).1 ≤ (call.amounts c).2

/-- The same for the amounts of a new contract; those of a promotion are computed in whole cents. -/
def RentTerms.fits (terms : RentTerms) : Bool :=
  terms.promotion.isSome || !(column terms.priceMonthly < toCents terms.priceMonthly) ||
    column terms.discountAmount ≤ column terms.priceMonthly

/-- The values that the schema of a new contract admits for its payment. -/
structure CreateContractInput.Admitted (input : CreateContractInput) : Prop where
  billingIntervalMonths : input.billingIntervalMonths ∈ [1, 6, 12]
  firstPaymentMonths : input.firstPaymentMonths ∈ [1, 3, 6, 12]
  prepayDiscountPct : 0 ≤ input.prepayDiscountPct ∧ input.prepayDiscountPct ≤ 90

/-! ### What a request has compared -/

def PriceCall.Compared : PriceCall → Prop
  | .writing data existing =>
    ¬isGreaterThan ((data.discountAmount.map fun discount => (discount : ℚ)).getD (euros existing.discountAmount))
      ((data.priceMonthly.map fun price => (price : ℚ)).getD (euros existing.priceMonthly))
  | .writingPrice priceMonthly existing => existing.discountAmount ≤ toCents priceMonthly
  | _ => True

variable {existing : PricedContract} {today : Date} {call : PriceCall} {c c' : PricedContract} {input : PriceInput}

theorem PricedContract.updatePrice_compared {input data : UpdatePriceInput}
    (done : existing.updatePrice input = .ok data) : (PriceCall.writing data existing).Compared := by
  obtain ⟨_, -, done⟩ := Outcome.bind_ok done
  obtain ⟨_, -, done⟩ := Outcome.bind_ok done
  replace done := Outcome.passed (Outcome.passed (Outcome.passed (Outcome.passed (Outcome.passed done))))
  obtain ⟨_, compared, done⟩ := Outcome.bind_ok done
  cases done
  exact refuseIf_ok compared

theorem PricedContract.changePrice_compared {input : ChangeContractPriceInput}
    (done : existing.changePrice today input = .ok call) :
    call.Compared := by
  replace done := Outcome.passed (Outcome.passed done)
  obtain ⟨_, compared, done⟩ := Outcome.bind_ok done
  have fits := refuseIf_ok compared
  rw [isGreaterThan, toCents_euros, not_lt] at fits
  split at done
  · cases done
    trivial
  · cases done
    exact fits

theorem PricedContract.changeUnit_compared {input : ChangeUnitInput}
    (done : existing.changeUnit today input = .ok call) : call.Compared := by
  replace done := Outcome.passed (Outcome.passed (Outcome.passed done))
  split at done
  · replace done := Outcome.passed (Outcome.passed done)
    cases done
    trivial
  · cases done
    trivial

theorem stepPrice_compared {call next : PriceCall} (made : stepPrice c call input = some (c', some next)) :
    next.Compared := by
  unfold stepPrice at made
  split at made
  · cases made
  · cases call with
    | updating update =>
      obtain ⟨-, rest⟩ := Prod.mk.inj (Option.some.inj made)
      obtain ⟨data, done, rfl⟩ := Option.map_eq_some_iff.mp rest
      exact PricedContract.updatePrice_compared (Outcome.ok_of_toOption done)
    | changingPrice change =>
      obtain ⟨-, rest⟩ := Prod.mk.inj (Option.some.inj made)
      exact PricedContract.changePrice_compared (Outcome.ok_of_toOption rest)
    | changingUnit change =>
      obtain ⟨-, rest⟩ := Prod.mk.inj (Option.some.inj made)
      exact PricedContract.changeUnit_compared (Outcome.ok_of_toOption rest)
    | renewing months newPrice =>
      obtain ⟨-, rest⟩ := Prod.mk.inj (Option.some.inj made)
      split at rest <;> cases rest
      trivial
    | extending months newPrice existing =>
      obtain ⟨-, rest⟩ := Prod.mk.inj (Option.some.inj made)
      obtain ⟨price, -, rfl⟩ := Option.map_eq_some_iff.mp rest
      trivial
    | findingAnniversary pct =>
      obtain ⟨-, rest⟩ := Prod.mk.inj (Option.some.inj made)
      split at rest <;> cases rest
      trivial
    | findingScheduledPrice =>
      obtain ⟨-, rest⟩ := Prod.mk.inj (Option.some.inj made)
      split at rest <;> cases rest
      trivial
    | findingScheduledMove =>
      obtain ⟨-, rest⟩ := Prod.mk.inj (Option.some.inj made)
      split at rest
      · obtain ⟨unitId, -, rfl⟩ := Option.map_eq_some_iff.mp rest
        trivial
      · cases rest
    | _ => cases made

/-! ### The price and the discount after a write -/

theorem column_le_of_compared {discount price : ℚ} (kept : column discount ≤ toCents discount)
    (whole : toCents price ≤ column price) (compared : ¬isGreaterThan discount price) :
    column discount ≤ column price :=
  kept.trans ((not_lt.mp compared).trans whole)

theorem PricedContract.column_price (c : PricedContract) (data : UpdatePriceInput) :
    column ((data.priceMonthly.map fun price => (price : ℚ)).getD (euros c.priceMonthly)) = c.priceAfter data := by
  unfold priceAfter
  cases data.priceMonthly <;> simp

theorem PricedContract.column_discount (c : PricedContract) (data : UpdatePriceInput) :
    column ((data.discountAmount.map fun discount => (discount : ℚ)).getD (euros c.discountAmount)) =
      c.discountAfter data := by
  unfold discountAfter
  cases data.discountAmount <;> simp

theorem PriceCall.amounts_le {c : PricedContract} (sound : c.discountAmount ≤ c.priceMonthly) (compared : call.Compared)
    (checked : call.unchecked c = false) : (call.amounts c).1 ≤ (call.amounts c).2 := by
  cases call with
  | writing data existing =>
    simp only [unchecked, Bool.or_eq_false_iff, decide_eq_false_iff_not, not_not, Option.any_eq_false] at checked
    obtain ⟨⟨price, discount⟩, kept⟩ := checked
    simp only [Compared, ← price, ← discount] at compared
    show c.discountAfter data ≤ c.priceAfter data
    rw [← c.column_discount data, ← c.column_price data]
    refine column_le_of_compared ?_ ?_ compared
    · cases data.discountAmount with
      | none => simp
      | some discount => exact column_le_toCents (NNRat.coe_nonneg discount)
    · cases given : data.priceMonthly with
      | none => simp
      | some p => simpa [given] using kept p
  | writingPrice priceMonthly existing =>
    simp only [unchecked, Bool.or_eq_false_iff, decide_eq_false_iff_not, not_not] at checked
    show c.discountAmount ≤ column priceMonthly
    rw [checked.1]
    exact compared.trans (not_lt.mp checked.2)
  | moving input =>
    have none_ : input.newPrice = none := by simpa [unchecked] using checked
    simpa [amounts, none_] using sound
  | _ => exact sound

/-! ### Every step -/

theorem stepPrice_amounts {rest : Option PriceCall} (goes : input.fails = false)
    (made : stepPrice c call input = some (c', rest)) :
    c'.discountAmount = (call.amounts c).1 ∧ c'.priceMonthly = (call.amounts c).2 ∧
      c'.billingIntervalMonths = c.billingIntervalMonths ∧ c'.firstPaymentMonths = c.firstPaymentMonths ∧
      c'.prepayDiscountPct = c.prepayDiscountPct := by
  unfold stepPrice at made
  rw [goes, if_neg Bool.false_ne_true] at made
  cases call <;> cases made <;> exact ⟨rfl, rfl, rfl, rfl, rfl⟩

theorem stepPrice_sound {rest : Option PriceCall} (sound : c.RentSound) (compared : call.Compared)
    (fits : priceFits c call input = true) (made : stepPrice c call input = some (c', rest)) : c'.RentSound := by
  cases goes : input.fails with
  | true =>
    unfold stepPrice at made
    rw [if_pos goes] at made
    cases made
    exact sound
  | false =>
    obtain ⟨discount, price, interval, firstPayment, prepay⟩ := stepPrice_amounts goes made
    refine ⟨?_, interval ▸ sound.interval, firstPayment ▸ sound.firstPayment, prepay ▸ sound.prepayDiscount⟩
    rw [discount, price]
    cases checked : call.unchecked c with
    | false => exact PriceCall.amounts_le sound.discount compared checked
    | true => simpa [priceFits, goes, checked] using fits

/-! ### A new contract -/

theorem column_of_nonneg {amount : ℚ} (h : 0 ≤ amount) : column amount = mathRound (amount * 100) := by
  rw [column, mathRound]
  rcases h.lt_or_eq with positive | rfl
  · rw [sign_pos positive, SignType.coe_one, one_mul, abs_of_pos positive]
  · norm_num

theorem Promotion.computeDiscount_le (promo : Promotion) (price : ℚ≥0) :
    promo.computeDiscount price ≤ column price := by
  rw [column_of_nonneg (NNRat.coe_nonneg price)]
  exact min_le_right _ _

theorem Promotion.applyToContract_le (promo : Promotion) (price : ℚ≥0) :
    (promo.applyToContract price).1 ≤ column price := by
  unfold applyToContract
  split
  · exact column_nonneg (NNRat.coe_nonneg price)
  · exact promo.computeDiscount_le price

theorem createContract_sound {customer : RentalCustomer} {facility : Facility} {input : CreateContractInput}
    {terms : RentTerms} {c : PricedContract} (admitted : input.Admitted) (fits : terms.fits = true)
    (created : createContract today customer facility input terms = .ok c) :
    c.RentSound := by
  have interval : ∀ opening : Bool, 1 ≤ if opening = true then 1 else input.billingIntervalMonths := by
    have := admitted.billingIntervalMonths
    simp only [List.mem_cons, List.not_mem_nil, or_false] at this
    intro opening
    split <;> omega
  have firstPayment : ∀ ahead : Bool, 1 ≤ if ahead = true then 1 else input.firstPaymentMonths := by
    have := admitted.firstPaymentMonths
    simp only [List.mem_cons, List.not_mem_nil, or_false] at this
    intro ahead
    split <;> omega
  have prepay : ∀ interval : ℤ, (if 1 < interval then input.prepayDiscountPct else 0) ≤ 100 := by
    have := admitted.prepayDiscountPct.2
    intro interval
    split <;> linarith
  replace created := Outcome.passed (Outcome.passed (Outcome.passed created))
  obtain ⟨_, compared, created⟩ := Outcome.bind_ok created
  obtain ⟨_, -, created⟩ := Outcome.bind_ok created
  obtain rfl := Except.ok.inj created
  refine ⟨?_, ?_, ?_, ?_⟩
  · show ((terms.promotion.map fun promo => promo.applyToContract terms.priceMonthly).map Prod.fst).getD
      (column terms.discountAmount) ≤ column terms.priceMonthly
    cases promoted : terms.promotion with
    | some promo => exact promo.applyToContract_le terms.priceMonthly
    | none =>
      show column terms.discountAmount ≤ column terms.priceMonthly
      by_cases rounded : column terms.priceMonthly < toCents terms.priceMonthly
      · simpa [RentTerms.fits, promoted, rounded] using fits
      · exact column_le_of_compared (column_le_toCents (NNRat.coe_nonneg _)) (not_lt.mp rounded) (refuseIf_ok compared)
  · exact interval _
  · exact firstPayment _
  · exact prepay _

/-! ### Runs -/

/-- In every run in which the writes that nothing has compared leave a price that is not below the discount, the
discount is never above the price and no rent line is negative. -/
theorem rent_never_negative {today : Date} {customer : RentalCustomer} {facility : Facility}
    {input : CreateContractInput} {terms : RentTerms} {c : PricedContract} (admitted : input.Admitted)
    (fits : terms.fits = true) (created : createContract today customer facility input terms = .ok c)
    {x : State PricedContract PriceCall}
    (run : Run priceSystem.step (System.admits fun c call input => priceFits c call input = true) ⟨c, []⟩ x) :
    x.db.discountAmount ≤ x.db.priceMonthly ∧ x.db.RentLinesNonneg := by
  have sound : x.db.RentSound := by
    refine (System.invariant (P := fun c : PricedContract => c.RentSound) (Q := fun _ call => call.Compared) run
      (createContract_sound admitted fits created) (fun _ mem => (List.not_mem_nil mem).elim)
      (fun {_ request _} _ entered => ?_) fun sound compared turn made => ?_).1
    · cases request <;> cases entered <;> trivial
    · refine ⟨stepPrice_sound sound compared turn made, fun _ goes => ?_, fun _ other => other⟩
      rw [goes] at made
      exact stepPrice_compared made
  exact ⟨sound.discount, sound.rentLinesNonneg⟩

/-! ### A contract of 80 € a month with a discount of 50 € -/

def rentedFrom : Date := 20500

def rentTenant : RentalCustomer := ⟨none, false, false⟩

def openFacility : Facility := ⟨none, false, none, 6⟩

def rentInput : CreateContractInput where
  customerId := 0
  unitId := 0
  reservationId := none
  waitlistEntryId := none
  startDate := rentedFrom
  endDate := none
  billingIntervalMonths := 1
  firstPaymentMonths := 1
  prepayDiscountPct := 0
  priceMonthly := 8000
  discountAmount := 5000
  depositAmount := 0
  insurancePrice := none
  autoRenew := true
  cancellationNoticeDays := 15

def rentTerms : RentTerms := ⟨80, 50, none, none⟩

def rentDraft : PricedContract :=
  ⟨draftContract rentedFrom rentTenant openFacility rentInput, false, none, none⟩

theorem rentInput_admitted : rentInput.Admitted := ⟨by decide, by decide, by decide⟩

theorem rentDraft_created : createContract rentedFrom rentTenant openFacility rentInput rentTerms = .ok rentDraft := by
  decide +kernel

def priceTurn (request : PriceRequest) (steps : ℕ) : List (Action PriceRequest PriceInput) :=
  .start request :: List.replicate steps (.advance 0 ⟨rentedFrom, false⟩)

/-- The contract is signed, and then moved to another unit at a price. -/
def signedAndMoved (newPrice : ℤ) : List (Action PriceRequest PriceInput) :=
  priceTurn (.write { rentDraft with status := .active }) 1 ++
    priceTurn (.changeUnit ⟨1, some newPrice, false, none⟩) 2

theorem rent_never_negative_moved : ∃ x : State PricedContract PriceCall, x.db.priceMonthly = 6000 ∧
    x.db.discountAmount = 5000 ∧ x.db.RentLinesNonneg := by
  obtain ⟨x, run, reached⟩ := Run.exists_of_exec priceSystem.step
    (System.admits fun c call input => priceFits c call input = true) ⟨rentDraft, []⟩
    (priceTurn (.update ⟨some 75, some 50, none⟩) 2 ++ signedAndMoved 6000)
    (fun x => x.db.priceMonthly = 6000 ∧ x.db.discountAmount = 5000) (by decide +kernel)
  obtain ⟨price, discount⟩ := of_decide_eq_true reached
  exact ⟨x, price, discount,
    (rent_never_negative rentInput_admitted (by decide +kernel) rentDraft_created run).2⟩

/-- The first price of a contract is compared with the discount and the price of a move is not. -/
theorem rent_goes_negative :
    createContract rentedFrom rentTenant openFacility rentInput rentTerms = .ok rentDraft ∧
      ∃ x, Reaches priceSystem.step ⟨rentDraft, []⟩ x ∧ x.db.priceMonthly < x.db.discountAmount ∧
        ¬x.db.RentLinesNonneg := by
  refine ⟨rentDraft_created, ?_⟩
  obtain ⟨x, run, reached⟩ := Run.exists_of_exec priceSystem.step (fun _ _ => True) ⟨rentDraft, []⟩
    (signedAndMoved 3000) (fun x => x.db.priceMonthly < x.db.discountAmount ∧
      (recurringPlan (resolvePeriod (rentedFrom + 40) none) true [] ⟨x.db.toContract, .empty⟩).any fun plan =>
        (plan.rentLines (claimContractCredit plan.rentBeforeCredit x.db.toContract).1).any (·.unitPrice < 0))
    (by decide +kernel)
  obtain ⟨below, billed⟩ := of_decide_eq_true reached
  refine ⟨x, run, below, fun nonneg => ?_⟩
  obtain ⟨plan, planned, lines⟩ := (Option.any_eq_true _ _).mp billed
  obtain ⟨line, mem, negative⟩ := List.any_eq_true.mp lines
  exact absurd (nonneg.recurring _ _ _ _ plan planned _ line mem) (not_le.mpr (of_decide_eq_true negative))

end StorageOS
