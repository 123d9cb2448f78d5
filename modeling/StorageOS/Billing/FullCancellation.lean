import StorageOS.Billing.Requests
import StorageOS.Billing.Rounding
import StorageOS.Lib.Binary64

/-! The full cancellation of an invoice. `create` computes the lines from the numbers of the request and
`cancelIssued` from the columns, which keep a quantity with three decimals, a price with two and a rate with two. The
amounts are computed here in double precision. -/

namespace StorageOS

open Binary64

/-! ### Amounts in double precision -/

/-- `roundHalfAway` of a number in double precision. -/
def roundNumber (x : ℚ) : ℤ := SignType.sign x * mathRound (Binary64.round (|x| + Binary64.round (1 / 1000000000)))

/-- `lineCents` of numbers in double precision. -/
def numberCents (quantity unitPrice taxRate : ℚ) : LineCents :=
  let baseCents := roundNumber (mul (mul quantity unitPrice) 100)
  let taxCents := roundNumber (div (mul baseCents taxRate) 100)
  ⟨baseCents, taxCents, baseCents + taxCents⟩

/-- The digits of a number that a column with some decimals keeps: the nearest, halves away from zero. -/
def decimalColumn (decimals : ℕ) (x : ℚ) : ℤ := SignType.sign x * ⌊|x| * 10 ^ decimals + 1 / 2⌋

/-- The columns of a line that its amounts depend on: thousandths of a unit, cents and hundredths of a point, with the
amounts that `toItemCreateData` writes. -/
structure LineColumns where
  quantity : ℤ
  unitPrice : ℤ
  taxRate : ℤ
  amounts : LineCents
  deriving DecidableEq

/-- The amounts of a line of a request, whose numbers are read in double precision. -/
def InvoiceItemInput.amounts (item : InvoiceItemInput) : LineCents :=
  numberCents (Binary64.round item.quantity) (Binary64.round item.unitPrice) (Binary64.round item.taxRate)

def InvoiceItemInput.columns (item : InvoiceItemInput) : LineColumns where
  quantity := decimalColumn 3 item.quantity
  unitPrice := decimalColumn 2 item.unitPrice
  taxRate := decimalColumn 2 item.taxRate
  amounts := item.amounts

def LineColumns.integer (it : LineColumns) : Bool := 1000 ∣ it.quantity && 0 < it.quantity

def LineColumns.number (it : LineColumns) : ℚ := Binary64.round (it.quantity / 1000)

def LineColumns.price (it : LineColumns) : ℚ := Binary64.round (it.unitPrice / 100)

/-- The line of the rectification that `cancelIssued` makes of a stored line: the same quantity with the opposite
price, or one unit of what the line amounts to. -/
def LineColumns.credit (it : LineColumns) : LineCents :=
  numberCents (if it.integer then it.number else 1)
    (-if it.integer then it.price else div (mathRound (mul (mul it.number it.price) 100)) 100)
    (Binary64.round (it.taxRate / 100))

def sumLines (lines : List LineCents) : Outcome Totals :=
  let taxCents := (lines.map LineCents.taxCents).sum
  let totalCents := (lines.map LineCents.totalCents).sum
  if |totalCents| > maxInvoiceTotalCents then
    .error (badRequest "amount_too_large"
      "El importe de la factura es demasiado alto: revisa los precios y las cantidades")
  else .ok ⟨totalCents - taxCents, taxCents, totalCents⟩

instance : Neg LineCents := ⟨fun line => ⟨-line.baseCents, -line.taxCents, -line.totalCents⟩⟩

instance : Neg Totals := ⟨fun totals => ⟨-totals.subtotal, -totals.taxAmount, -totals.total⟩⟩

/-- The rectification is the opposite of the invoice, line by line and in the totals. -/
def CancelsExactly (items : List InvoiceItemInput) : Prop :=
  (items.map fun item => item.columns.credit) = (items.map fun item => -item.columns.amounts) ∧
    sumLines (items.map fun item => item.columns.credit) =
      (sumLines (items.map fun item => item.columns.amounts)).map (-·)

structure InvoiceItemInput.Admitted (item : InvoiceItemInput) : Prop where
  quantity : 0 < item.quantity ∧ item.quantity ≤ 10000
  unitPrice : 0 < item.unitPrice ∧ item.unitPrice ≤ 1000000
  taxRate : 0 ≤ item.taxRate ∧ item.taxRate ≤ 100

/-! ### When the columns keep the amounts -/

/-- The cents of the stored quantity and price: exact for a whole quantity. -/
def LineColumns.baseCents (it : LineColumns) : ℤ :=
  if it.integer then it.quantity / 1000 * it.unitPrice else mathRound (mul (mul it.number it.price) 100)

def taxCents (baseCents : ℤ) (taxRate : ℚ) : ℤ := roundNumber (div (mul baseCents taxRate) 100)

/-- The columns of a line give the cents that its own numbers give: of quantity and price, and of the rate. -/
def InvoiceItemInput.keepsCents (item : InvoiceItemInput) : Bool :=
  item.columns.baseCents = roundNumber (mul (mul (Binary64.round item.quantity) (Binary64.round item.unitPrice)) 100) &&
    taxCents item.columns.baseCents (Binary64.round (item.columns.taxRate / 100)) =
      taxCents item.columns.baseCents (Binary64.round item.taxRate)

/-! ### Rounding in double precision -/

theorem roundNumber_neg (x : ℚ) : roundNumber (-x) = -roundNumber x := by
  rw [roundNumber, roundNumber, abs_neg, Left.sign_neg]
  rcases SignType.trichotomy (SignType.sign x) with h | h | h <;> rw [h] <;> simp

variable {x : ℚ} {item : InvoiceItemInput}

theorem roundNumber_of_near {n : ℤ} (bound : |(n : ℚ)| ≤ 2000000000000) (near : |x - n| ≤ 1 / 1000) :
    roundNumber x = n := by
  have margin := abs_round_sub_le (1 / 1000000000)
  have size : abs (|x| - |(n : ℚ)|) ≤ 1 / 1000 := (abs_abs_sub_abs_le _ _).trans near
  have error := abs_round_sub_le (|x| + Binary64.round (1 / 1000000000))
  rw [abs_of_pos (show (0 : ℚ) < 1 / 1000000000 by norm_num)] at margin
  rw [abs_le] at margin size
  have sum_nonneg : 0 ≤ |x| + Binary64.round (1 / 1000000000) := by
    have := abs_nonneg x
    linarith
  rw [abs_of_nonneg sum_nonneg, abs_le] at error
  have rounded : mathRound (Binary64.round (|x| + Binary64.round (1 / 1000000000))) = |n| := by
    rw [mathRound_eq_iff, Int.cast_abs]
    constructor <;> linarith
  rw [roundNumber, rounded]
  rw [abs_le] at near
  rcases lt_trichotomy n 0 with h | rfl | h
  · have : (n : ℚ) ≤ -1 := by exact_mod_cast Int.le_sub_one_of_lt h
    rw [sign_neg (by linarith), abs_of_neg h]
    simp
  · simp
  · have : (1 : ℚ) ≤ n := by exact_mod_cast h
    rw [sign_pos (by linarith), abs_of_pos h]
    simp

theorem cents_near {quantity price : ℚ} (boundQ : |quantity| ≤ 10000) (boundP : |price| ≤ 1000000) :
    |mul (mul (Binary64.round quantity) (Binary64.round price)) 100 - quantity * price * 100| ≤ 1 / 1000 := by
  have errorQ : |Binary64.round quantity - quantity| ≤ 1 / 2 ^ 39 := by
    refine (abs_round_sub_le quantity).trans ?_
    linarith
  have errorP : |Binary64.round price - price| ≤ 1 / 2 ^ 32 := by
    refine (abs_round_sub_le price).trans ?_
    linarith
  have product := abs_mul_sub_le errorQ errorP boundQ boundP
  have boundQP : |quantity * price| ≤ 10000000000 := by
    rw [abs_mul]
    nlinarith [abs_nonneg quantity, abs_nonneg price]
  have errorQP : |mul (Binary64.round quantity) (Binary64.round price) - quantity * price| ≤ 1 / 2 ^ 17 :=
    product.trans (by norm_num)
  have exact_ : |(100 : ℚ) - 100| ≤ 0 := by norm_num
  exact (abs_mul_sub_le errorQP exact_ boundQP (by norm_num : |(100 : ℚ)| ≤ 100)).trans (by norm_num)

theorem roundNumber_euros {n : ℤ} (bound : |(n : ℚ)| ≤ 1000000000001) :
    roundNumber (mul (mul 1 (div n 100)) 100) = n := by
  have boundE : |(n : ℚ) / 100| ≤ 10000000001 := by
    rw [abs_div, abs_of_pos (by norm_num : (0 : ℚ) < 100)]
    linarith
  have errorE : |div n 100 - (n : ℚ) / 100| ≤ 1 / 2 ^ 19 := by
    refine (abs_round_sub_le _).trans ?_
    linarith
  have none_ : ∀ x : ℚ, |x - x| ≤ 0 := by simp
  have errorOne := abs_mul_sub_le (none_ 1) errorE (by norm_num : |(1 : ℚ)| ≤ 1) boundE
  have errorE' : |mul 1 (div n 100) - 1 * ((n : ℚ) / 100)| ≤ 1 / 2 ^ 18 := errorOne.trans (by norm_num)
  rw [one_mul] at errorE'
  apply roundNumber_of_near (by linarith)
  have := abs_mul_sub_le errorE' (none_ 100) boundE (by norm_num : |(100 : ℚ)| ≤ 100)
  rw [div_mul_cancel₀ _ (by norm_num)] at this
  exact this.trans (by norm_num)

/-! ### The lines -/

theorem decimalColumn_of_nonneg (decimals : ℕ) (nonneg : 0 ≤ x) :
    decimalColumn decimals x = mathRound (x * 10 ^ decimals) := by
  rw [decimalColumn, mathRound]
  rcases nonneg.lt_or_eq with positive | rfl
  · rw [sign_pos positive, SignType.coe_one, one_mul, abs_of_pos positive]
  · norm_num

theorem decimalColumn_bounds {bound : ℕ} (decimals : ℕ) (nonneg : 0 ≤ x) (most : x ≤ bound) :
    0 ≤ decimalColumn decimals x ∧ decimalColumn decimals x ≤ bound * 10 ^ decimals := by
  rw [decimalColumn_of_nonneg decimals nonneg]
  refine ⟨mathRound_nonneg (by positivity), mathRound_le ?_⟩
  push_cast
  gcongr

structure LineColumns.Bounded (it : LineColumns) : Prop where
  quantity : 0 ≤ it.quantity ∧ it.quantity ≤ 10000000
  unitPrice : 0 ≤ it.unitPrice ∧ it.unitPrice ≤ 100000000

theorem InvoiceItemInput.Admitted.bounded (admitted : item.Admitted) :
    item.columns.Bounded where
  quantity := by
    have most : item.quantity ≤ (10000 : ℕ) := admitted.quantity.2
    exact decimalColumn_bounds 3 admitted.quantity.1.le most
  unitPrice := by
    have most : item.unitPrice ≤ (1000000 : ℕ) := admitted.unitPrice.2
    exact decimalColumn_bounds 2 admitted.unitPrice.1.le most

namespace LineColumns

variable {it : LineColumns}

def exactCents (it : LineColumns) : ℚ := it.quantity / 1000 * (it.unitPrice / 100) * 100

theorem Bounded.exactCents_bounds (bounded : it.Bounded) :
    0 ≤ it.exactCents ∧ it.exactCents ≤ 1000000000000 := by
  obtain ⟨⟨lowQ, highQ⟩, lowP, highP⟩ := bounded
  have product : 0 ≤ it.quantity * it.unitPrice := mul_nonneg lowQ lowP
  have most : it.quantity * it.unitPrice ≤ 10000000 * 100000000 := mul_le_mul highQ highP lowP (by norm_num)
  have product' : (0 : ℚ) ≤ it.quantity * it.unitPrice := by exact_mod_cast product
  have most' : (it.quantity * it.unitPrice : ℚ) ≤ 10000000 * 100000000 := by exact_mod_cast most
  have value : it.exactCents = it.quantity * it.unitPrice / 1000 := by
    rw [exactCents]
    ring
  rw [value]
  constructor <;> linarith

theorem Bounded.near (bounded : it.Bounded) : |mul (mul it.number it.price) 100 - it.exactCents| ≤ 1 / 1000 := by
  obtain ⟨⟨lowQ, highQ⟩, lowP, highP⟩ := bounded
  have lowQ' : (0 : ℚ) ≤ it.quantity := by exact_mod_cast lowQ
  have highQ' : (it.quantity : ℚ) ≤ 10000000 := by exact_mod_cast highQ
  have lowP' : (0 : ℚ) ≤ it.unitPrice := by exact_mod_cast lowP
  have highP' : (it.unitPrice : ℚ) ≤ 100000000 := by exact_mod_cast highP
  apply cents_near
  · rw [abs_of_nonneg (by positivity)]
    linarith
  · rw [abs_of_nonneg (by positivity)]
    linarith

theorem exactCents_of_integer (whole : it.integer = true) :
    it.exactCents = (it.quantity / 1000 * it.unitPrice : ℤ) := by
  obtain ⟨units, isWhole⟩ : 1000 ∣ it.quantity := by simpa using (Bool.and_eq_true_iff.mp whole).1
  rw [exactCents, isWhole, Int.mul_ediv_cancel_left _ (by norm_num)]
  push_cast
  ring

/-- The base of the credit of a line is the opposite of what its quantity and price give. -/
theorem Bounded.credit_base (bounded : it.Bounded) : it.credit.baseCents = -it.baseCents := by
  have near := bounded.near
  obtain ⟨low, high⟩ := bounded.exactCents_bounds
  show roundNumber (mul (mul (if it.integer then it.number else 1) (-if it.integer then it.price else _)) 100) = _
  rw [mul_neg_right, mul_neg_left, roundNumber_neg, baseCents]
  congr 1
  by_cases whole : it.integer = true
  · rw [if_pos whole, if_pos whole, if_pos whole]
    rw [exactCents_of_integer whole] at near low high
    refine roundNumber_of_near ?_ near
    rw [abs_of_nonneg low]
    linarith
  · rw [if_neg whole, if_neg whole, if_neg whole]
    apply roundNumber_euros
    rw [abs_le] at near ⊢
    generalize mul (mul it.number it.price) 100 = cents at near
    have least : (-1 : ℤ) ≤ mathRound cents := le_mathRound (by push_cast; linarith)
    have most : mathRound cents ≤ (1000000000001 : ℤ) := mathRound_le (by push_cast; linarith)
    have least' : (-1 : ℚ) ≤ mathRound cents := by exact_mod_cast least
    have most' : (mathRound cents : ℚ) ≤ 1000000000001 := by exact_mod_cast most
    constructor <;> linarith

theorem taxCents_neg (baseCents : ℤ) (taxRate : ℚ) : taxCents (-baseCents) taxRate = -taxCents baseCents taxRate := by
  rw [taxCents, taxCents, Int.cast_neg, mul_neg_left, div_neg_left, roundNumber_neg]

theorem Bounded.credit_eq (bounded : it.Bounded) :
    it.credit = -⟨it.baseCents, taxCents it.baseCents (Binary64.round (it.taxRate / 100)),
      it.baseCents + taxCents it.baseCents (Binary64.round (it.taxRate / 100))⟩ := by
  have base := bounded.credit_base
  have tax : it.credit.taxCents = -taxCents it.baseCents (Binary64.round (it.taxRate / 100)) := by
    rw [← taxCents_neg, ← base]
    rfl
  have total : it.credit.totalCents = it.credit.baseCents + it.credit.taxCents := rfl
  generalize it.credit = credit at base tax total ⊢
  cases credit
  show LineCents.mk _ _ _ = LineCents.mk _ _ _
  simp only at base tax total
  rw [base, tax] at total
  rw [base, tax, total, neg_add]

end LineColumns

theorem LineCents.neg_eq_neg {a b : LineCents} : -a = -b ↔ a = b := by
  cases a
  cases b
  show LineCents.mk _ _ _ = LineCents.mk _ _ _ ↔ _
  simp only [LineCents.mk.injEq, neg_inj]

theorem InvoiceItemInput.Admitted.credit_iff (admitted : item.Admitted) :
    item.columns.credit = -item.columns.amounts ↔ item.keepsCents = true := by
  rw [admitted.bounded.credit_eq, LineCents.neg_eq_neg, keepsCents, Bool.and_eq_true, decide_eq_true_eq, decide_eq_true_eq]
  show LineCents.mk _ _ _ = LineCents.mk _ (taxCents _ _) (_ + taxCents _ _) ↔ _
  rw [LineCents.mk.injEq]
  constructor
  · rintro ⟨base, tax, -⟩
    exact ⟨base, base ▸ tax⟩
  · rintro ⟨base, tax⟩
    exact ⟨base, base ▸ tax, base ▸ congrArg _ tax⟩

theorem sumLines_neg (lines : List LineCents) : sumLines (lines.map (-·)) = (sumLines lines).map (-·) := by
  have tax : ((lines.map (-·)).map LineCents.taxCents).sum = -(lines.map LineCents.taxCents).sum := by
    rw [List.sum_neg, List.map_map, List.map_map]
    rfl
  have total : ((lines.map (-·)).map LineCents.totalCents).sum = -(lines.map LineCents.totalCents).sum := by
    rw [List.sum_neg, List.map_map, List.map_map]
    rfl
  simp only [sumLines, tax, total, abs_neg]
  split
  · rfl
  · refine congrArg Except.ok ?_
    show Totals.mk _ _ _ = Totals.mk _ _ _
    rw [neg_sub_neg, neg_sub]

/-- The rectification of a full cancellation is the opposite of the invoice if and only if the columns of every line
keep its cents. -/
theorem cancels_exactly_iff {items : List InvoiceItemInput} (admitted : ∀ item ∈ items, item.Admitted) :
    CancelsExactly items ↔ ∀ item ∈ items, item.keepsCents = true := by
  have lines : (items.map fun item => item.columns.credit) = (items.map fun item => -item.columns.amounts) ↔
      ∀ item ∈ items, item.keepsCents = true := by
    rw [List.map_inj_left]
    exact forall₂_congr fun item mem => (admitted item mem).credit_iff
  rw [CancelsExactly, lines, and_iff_left_iff_imp]
  intro keeps
  rw [lines.mpr keeps, ← sumLines_neg, List.map_map]
  rfl

/-! ### Lines of any number of decimals -/

def lineOf (quantity unitPrice taxRate : ℚ) : InvoiceItemInput :=
  ⟨"Servicio", quantity, unitPrice, taxRate, none, none⟩

def exactLines : List InvoiceItemInput := [lineOf 2 (31 / 2) 21, lineOf (3 / 2) (121 / 4) 10]

theorem exactLines_admitted : ∀ item ∈ exactLines, item.Admitted := by
  simp only [exactLines, lineOf, List.mem_cons, List.not_mem_nil, or_false, forall_eq_or_imp, forall_eq]
  exact ⟨⟨by norm_num, by norm_num, by norm_num⟩, by norm_num, by norm_num, by norm_num⟩

theorem cancels_exactly_both : CancelsExactly exactLines :=
  (cancels_exactly_iff exactLines_admitted).mpr (by decide +kernel)

def thirdOfUnit : InvoiceItemInput := lineOf (3333 / 10000) 100 21

/-- 1.005 units of 1 €, whose cents are rounded up in the invoice and down in its cancellation. -/
def halfCent : InvoiceItemInput := lineOf (1005 / 1000) 1 21

/-- A line that is not cancelled exactly, since its columns do not keep its cents. -/
theorem InvoiceItemInput.Admitted.differs (admitted : item.Admitted) (lost : item.keepsCents = false) :
    ¬CancelsExactly [item] := by
  intro cancels
  have same := admitted.credit_iff.mp (List.cons.inj cancels.1).1
  rw [lost] at same
  cases same

theorem full_cancellation_differs :
    (thirdOfUnit.Admitted ∧ (sumLines [thirdOfUnit.columns.amounts]).toOption.isSome = true ∧
      ¬CancelsExactly [thirdOfUnit]) ∧
    halfCent.Admitted ∧ (sumLines [halfCent.columns.amounts]).toOption.isSome = true ∧ ¬CancelsExactly [halfCent] := by
  have third : thirdOfUnit.Admitted := ⟨by norm_num [thirdOfUnit, lineOf], by norm_num [thirdOfUnit, lineOf],
    by norm_num [thirdOfUnit, lineOf]⟩
  have half : halfCent.Admitted := ⟨by norm_num [halfCent, lineOf], by norm_num [halfCent, lineOf],
    by norm_num [halfCent, lineOf]⟩
  exact ⟨⟨third, by decide +kernel, third.differs (by decide +kernel)⟩, half, by decide +kernel,
    half.differs (by decide +kernel)⟩

end StorageOS
