import StorageOS.Billing.Months
import StorageOS.Billing.Rounding
import Mathlib.Order.Interval.Finset.Nat
import Mathlib.Algebra.Order.BigOperators.Group.List

/-! The credit of a prepaid contract that ends early: the months of the period that have not begun
are given back of each line that the period was paid with. -/

namespace StorageOS

open Gregorian

/-- The months of a period that have begun by a day, from the ones already counted on. -/
def startedMonths (periodStart endDate : Date) : ℕ → ℕ → ℕ
  | 0, consumed => consumed
  | left + 1, consumed =>
    if addMonths periodStart consumed ≤ endDate then
      startedMonths periodStart endDate left (consumed + 1)
    else consumed

/-- The whole months of a prepaid period that are left on the day a contract ends. -/
def unusedPrepaidMonths (periodStart : Date) (intervalMonths : ℤ) (endDate : Date) : ℤ :=
  if intervalMonths ≤ 1 then 0
  else max 0 (intervalMonths - startedMonths periodStart endDate intervalMonths.toNat 0)

def creditForLine (lineAmount : ℚ) (intervalMonths unused : ℤ) : ℚ :=
  if unused ≤ 0 ∨ intervalMonths ≤ 0 then 0
  else euros (mathRound (mathRound (lineAmount * 100) * unused / intervalMonths))

/-- A line of the invoice that paid the period. The deposit has no period. -/
structure PrepaidLine where
  unitPrice : ℚ
  quantity : ℚ
  taxRate : ℚ
  hasPeriod : Bool
  deriving DecidableEq

def PrepaidLine.lineAmount (i : PrepaidLine) : ℚ := i.unitPrice * i.quantity

def prepayCreditLines (intervalMonths unused : ℤ) (items : List PrepaidLine) : List (ℚ × ℚ) :=
  ((items.filter PrepaidLine.hasPeriod).map fun i =>
    (-creditForLine i.lineAmount intervalMonths unused, i.taxRate)).filter fun i => i.1 < 0

def prepayRefund (periodStart : Date) (intervalMonths : ℤ) (items : List PrepaidLine)
    (endDate : Date) : ℤ :=
  -((prepayCreditLines intervalMonths (unusedPrepaidMonths periodStart intervalMonths endDate)
    items).map fun i => (lineCents 1 i.1 i.2).totalCents).sum

/-! ### The months that have begun -/

section

variable {periodStart endDate endDate' : Date} {intervalMonths unused unused' : ℤ}

theorem addMonths_le_of_le {j k : ℕ} (h : j ≤ k) (began : addMonths periodStart k ≤ endDate) :
    addMonths periodStart j ≤ endDate := by
  rcases Nat.lt_or_eq_of_le h with before | rfl
  · have := addMonths_lt_iff (d := periodStart).mpr (Nat.cast_lt.mpr before : (j : ℤ) < k)
    exact this.le.trans began
  · exact began

/-- The loop stops at the first month that has not begun, or at the end of the period. -/
theorem startedMonths_spec (periodStart endDate : Date) (left consumed : ℕ) :
    consumed ≤ startedMonths periodStart endDate left consumed ∧
      startedMonths periodStart endDate left consumed ≤ consumed + left ∧
      ∀ k, consumed ≤ k → k < consumed + left →
        (k < startedMonths periodStart endDate left consumed ↔
          addMonths periodStart k ≤ endDate) := by
  induction left generalizing consumed with
  | zero => exact ⟨le_refl _, le_refl _, fun k from_k k_lt => by omega⟩
  | succ left ih =>
    rw [startedMonths]
    split
    · rename_i began
      obtain ⟨low, high, counts⟩ := ih (consumed + 1)
      refine ⟨by omega, by omega, fun k from_k k_lt => ?_⟩
      rcases Nat.lt_or_eq_of_le from_k with later | rfl
      · exact counts k later (by omega)
      · exact iff_of_true (by omega) began
    · rename_i ahead
      refine ⟨le_refl _, by omega, fun k from_k _ => ?_⟩
      exact iff_of_false (by omega) fun began => ahead (addMonths_le_of_le from_k began)

theorem unusedPrepaidMonths_eq (periodStart endDate : Date) {n : ℕ} (ahead : 1 < n) :
    unusedPrepaidMonths periodStart n endDate =
      ((Finset.range n).filter fun k : ℕ => endDate < addMonths periodStart k).card := by
  obtain ⟨-, high, counts⟩ := startedMonths_spec periodStart endDate n 0
  rw [unusedPrepaidMonths, if_neg (by omega), Int.toNat_natCast]
  generalize startedMonths periodStart endDate n 0 = consumed at high counts
  have later : ((Finset.range n).filter fun k : ℕ => endDate < addMonths periodStart k) =
      Finset.Ico consumed n := by
    ext k
    rw [Finset.mem_filter, Finset.mem_range, Finset.mem_Ico]
    constructor
    · rintro ⟨k_lt, after⟩
      have := counts k (Nat.zero_le k) (by omega)
      refine ⟨not_lt.mp fun began => ?_, k_lt⟩
      exact absurd (this.mp began) (not_le.mpr after)
    · rintro ⟨from_k, k_lt⟩
      have := counts k (Nat.zero_le k) (by omega)
      exact ⟨k_lt, not_le.mp fun began => absurd (this.mpr began) (not_lt.mpr from_k)⟩
  rw [later, Nat.card_Ico]
  omega

theorem unusedPrepaidMonths_nonneg (periodStart endDate : Date) (intervalMonths : ℤ) :
    0 ≤ unusedPrepaidMonths periodStart intervalMonths endDate := by
  rw [unusedPrepaidMonths]
  split
  · exact le_refl 0
  · exact le_max_left _ _

theorem unusedPrepaidMonths_lt {n : ℕ} (ahead : 1 < n) (inside : periodStart ≤ endDate) :
    unusedPrepaidMonths periodStart n endDate < n := by
  obtain ⟨-, -, counts⟩ := startedMonths_spec periodStart endDate n 0
  have first : 0 < startedMonths periodStart endDate n 0 :=
    (counts 0 (le_refl 0) (by omega)).mpr (by simpa using inside)
  rw [unusedPrepaidMonths, if_neg (by omega), Int.toNat_natCast]
  omega

theorem unusedPrepaidMonths_antitone {n : ℕ} (ahead : 1 < n) (h : endDate ≤ endDate') :
    unusedPrepaidMonths periodStart n endDate' ≤ unusedPrepaidMonths periodStart n endDate := by
  rw [unusedPrepaidMonths_eq _ _ ahead, unusedPrepaidMonths_eq _ _ ahead]
  apply Int.ofNat_le.mpr
  apply Finset.card_le_card
  intro k mem
  rw [Finset.mem_filter] at mem ⊢
  exact ⟨mem.1, h.trans_lt mem.2⟩

/-! ### What is given back -/

def creditCents (lineAmount : ℚ) (intervalMonths unused : ℤ) : ℤ :=
  if unused ≤ 0 ∨ intervalMonths ≤ 0 then 0
  else mathRound (mathRound (lineAmount * 100) * unused / intervalMonths)

theorem creditForLine_eq (lineAmount : ℚ) (intervalMonths unused : ℤ) :
    creditForLine lineAmount intervalMonths unused =
      euros (creditCents lineAmount intervalMonths unused) := by
  rw [creditForLine, creditCents]
  split
  · simp [euros]
  · rfl

theorem euros_le_iff {a b : ℤ} : euros a ≤ euros b ↔ a ≤ b := by
  rw [euros, euros, div_le_div_iff_of_pos_right (by norm_num : (0 : ℚ) < 100), Int.cast_le]

variable {lineAmount : ℚ}

theorem creditCents_nonneg (paid : 0 ≤ mathRound (lineAmount * 100)) (intervalMonths unused : ℤ) :
    0 ≤ creditCents lineAmount intervalMonths unused := by
  rw [creditCents]
  split
  · exact le_refl 0
  · rename_i left
    have unusedPos : (0 : ℚ) < unused := by exact_mod_cast (by omega : 0 < unused)
    have intervalPos : (0 : ℚ) < intervalMonths := by exact_mod_cast (by omega : 0 < intervalMonths)
    have paid' : (0 : ℚ) ≤ mathRound (lineAmount * 100) := by exact_mod_cast paid
    exact mathRound_nonneg (by positivity)

theorem creditCents_nonpos (off : mathRound (lineAmount * 100) ≤ 0) (intervalMonths unused : ℤ) :
    creditCents lineAmount intervalMonths unused ≤ 0 := by
  rw [creditCents]
  split
  · exact le_refl 0
  · rename_i left
    have unusedPos : (0 : ℚ) < unused := by exact_mod_cast (by omega : 0 < unused)
    have intervalPos : (0 : ℚ) < intervalMonths := by exact_mod_cast (by omega : 0 < intervalMonths)
    have off' : (mathRound (lineAmount * 100) : ℚ) ≤ 0 := by exact_mod_cast off
    apply mathRound_le
    rw [Int.cast_zero]
    exact div_nonpos_of_nonpos_of_nonneg (mul_nonpos_of_nonpos_of_nonneg off' unusedPos.le)
      intervalPos.le

theorem creditCents_le (paid : 0 ≤ mathRound (lineAmount * 100)) (within : unused ≤ intervalMonths) :
    creditCents lineAmount intervalMonths unused ≤ mathRound (lineAmount * 100) := by
  rw [creditCents]
  split
  · exact paid
  · rename_i left
    have intervalPos : (0 : ℚ) < intervalMonths := by exact_mod_cast (by omega : 0 < intervalMonths)
    have paid' : (0 : ℚ) ≤ mathRound (lineAmount * 100) := by exact_mod_cast paid
    have within' : (unused : ℚ) ≤ intervalMonths := by exact_mod_cast within
    apply mathRound_le
    rw [div_le_iff₀ intervalPos]
    exact mul_le_mul_of_nonneg_left within' paid'

theorem creditCents_mono (paid : 0 ≤ mathRound (lineAmount * 100)) (h : unused ≤ unused') :
    creditCents lineAmount intervalMonths unused ≤ creditCents lineAmount intervalMonths unused' := by
  by_cases some_left : unused ≤ 0 ∨ intervalMonths ≤ 0
  · rw [creditCents, if_pos some_left]
    exact creditCents_nonneg paid _ _
  · rw [creditCents, if_neg some_left, creditCents, if_neg (by omega)]
    have intervalPos : (0 : ℚ) < intervalMonths := by exact_mod_cast (by omega : 0 < intervalMonths)
    have paid' : (0 : ℚ) ≤ mathRound (lineAmount * 100) := by exact_mod_cast paid
    have h' : (unused : ℚ) ≤ unused' := by exact_mod_cast h
    apply mathRound_mono
    rw [div_le_div_iff_of_pos_right intervalPos]
    exact mul_le_mul_of_nonneg_left h' paid'

def PrepaidLine.refundCents (i : PrepaidLine) (intervalMonths unused : ℤ) : ℤ :=
  let cents := creditCents i.lineAmount intervalMonths unused
  if i.hasPeriod && 0 < cents then cents + roundHalfAway (cents * i.taxRate / 100) else 0

theorem prepayRefund_eq (periodStart : Date) (intervalMonths : ℤ) (items : List PrepaidLine)
    (endDate : Date) : prepayRefund periodStart intervalMonths items endDate =
      (items.map fun i => i.refundCents intervalMonths
        (unusedPrepaidMonths periodStart intervalMonths endDate)).sum := by
  rw [prepayRefund]
  generalize unusedPrepaidMonths periodStart intervalMonths endDate = unused
  induction items with
  | nil => rfl
  | cons i rest ih =>
    have opposite : -creditForLine i.lineAmount intervalMonths unused =
        euros (-creditCents i.lineAmount intervalMonths unused) := by
      rw [creditForLine_eq, euros, euros, Int.cast_neg, neg_div]
    have below : -creditForLine i.lineAmount intervalMonths unused < 0 ↔
        0 < creditCents i.lineAmount intervalMonths unused := by
      have := euros_le_iff (a := 0) (b := -creditCents i.lineAmount intervalMonths unused)
      rw [← opposite, show euros 0 = 0 by simp [euros]] at this
      rw [← not_le, this]
      omega
    rw [List.map_cons, List.sum_cons, ← ih, prepayCreditLines, prepayCreditLines]
    cases hasPeriod : i.hasPeriod with
    | false => simp [PrepaidLine.refundCents, hasPeriod]
    | true =>
      by_cases given : 0 < creditCents i.lineAmount intervalMonths unused
      · have line : (lineCents 1 (-creditForLine i.lineAmount intervalMonths unused)
            i.taxRate).totalCents = -i.refundCents intervalMonths unused := by
          rw [opposite, lineCents_euros, PrepaidLine.refundCents, if_pos (by simp [hasPeriod, given]),
            Int.cast_neg, neg_mul, neg_div, roundHalfAway_neg]
          dsimp only
          ring
        simp only [List.filter_cons, hasPeriod, if_true, List.map_cons, below.mpr given,
          decide_true, List.sum_cons, line]
        ring
      · simp only [List.filter_cons, hasPeriod, if_true, List.map_cons, below, given, decide_false,
          Bool.false_eq_true, if_false, PrepaidLine.refundCents, Bool.and_false, zero_add]

theorem PrepaidLine.refundCents_mono (i : PrepaidLine) (taxed : 0 ≤ i.taxRate)
    (h : unused ≤ unused') :
    i.refundCents intervalMonths unused ≤ i.refundCents intervalMonths unused' := by
  have tax_nonneg : ∀ cents : ℤ, 0 < cents → 0 ≤ roundHalfAway (cents * i.taxRate / 100) := by
    intro cents positive
    have : (0 : ℚ) < cents := by exact_mod_cast positive
    exact roundHalfAway_nonneg (by positivity)
  rcases le_total 0 (mathRound (i.lineAmount * 100)) with paid | off
  · have more : creditCents i.lineAmount intervalMonths unused ≤ creditCents i.lineAmount intervalMonths unused' :=
      creditCents_mono paid h
    simp only [refundCents, Bool.and_eq_true, decide_eq_true_eq]
    generalize creditCents i.lineAmount intervalMonths unused = less at more
    generalize creditCents i.lineAmount intervalMonths unused' = given at more
    by_cases before : i.hasPeriod = true ∧ 0 < less
    · have after : i.hasPeriod = true ∧ 0 < given := ⟨before.1, by omega⟩
      rw [if_pos before, if_pos after]
      have more' : (less : ℚ) ≤ given := by exact_mod_cast more
      have tax : roundHalfAway (less * i.taxRate / 100) ≤ roundHalfAway (given * i.taxRate / 100) :=
        roundHalfAway_mono (by gcongr)
      omega
    · rw [if_neg before]
      split
      · rename_i after
        have := tax_nonneg given after.2
        omega
      · exact le_refl 0
  · have none := creditCents_nonpos off intervalMonths unused
    have none' := creditCents_nonpos off intervalMonths unused'
    simp only [refundCents, Bool.and_eq_true, decide_eq_true_eq, not_lt.mpr none, not_lt.mpr none',
      and_false, if_false, le_refl]

theorem prepayRefund_antitone {n : ℕ} (ahead : 1 < n) {items : List PrepaidLine}
    (taxed : ∀ i ∈ items, 0 ≤ i.taxRate) (h : endDate ≤ endDate') :
    prepayRefund periodStart n items endDate' ≤ prepayRefund periodStart n items endDate := by
  have fewer : unusedPrepaidMonths periodStart n endDate' ≤ unusedPrepaidMonths periodStart n endDate :=
    unusedPrepaidMonths_antitone ahead h
  rw [prepayRefund_eq, prepayRefund_eq]
  exact List.sum_le_sum fun i mem => i.refundCents_mono (taxed i mem) fewer

end

theorem mathRound_cents_nonneg {lineAmount : ℚ} (h : 0 ≤ lineAmount) :
    0 ≤ mathRound (lineAmount * 100) :=
  mathRound_nonneg (by positivity)

/-- The unused months of a prepaid period are those that begin after the contract ends. A line is given back up to its
amount to the cent, and more of it the more months are unused, so the credit note of a later end gives back no more.
-/
theorem early_termination_credit {n : ℕ} (ahead : 1 < n) (periodStart : Date) :
    (∀ endDate, unusedPrepaidMonths periodStart n endDate =
        ((Finset.range n).filter fun k : ℕ => endDate < addMonths periodStart k).card) ∧
      (∀ endDate, periodStart ≤ endDate → 0 ≤ unusedPrepaidMonths periodStart n endDate ∧
        unusedPrepaidMonths periodStart n endDate < n) ∧
      (∀ endDate endDate', endDate ≤ endDate' →
        unusedPrepaidMonths periodStart n endDate' ≤ unusedPrepaidMonths periodStart n endDate) ∧
      (∀ lineAmount : ℚ, 0 ≤ lineAmount →
        (∀ unused ≤ (n : ℤ), 0 ≤ creditForLine lineAmount n unused ∧
          creditForLine lineAmount n unused ≤ euros (mathRound (lineAmount * 100))) ∧
        ∀ unused unused' : ℤ, unused ≤ unused' →
          creditForLine lineAmount n unused ≤ creditForLine lineAmount n unused') ∧
      ∀ items : List PrepaidLine, (∀ i ∈ items, 0 ≤ i.taxRate) → ∀ endDate endDate',
        endDate ≤ endDate' →
          prepayRefund periodStart n items endDate' ≤ prepayRefund periodStart n items endDate := by
  refine ⟨fun endDate => unusedPrepaidMonths_eq _ _ ahead, fun endDate inside => ⟨?_, ?_⟩,
    fun endDate endDate' h => unusedPrepaidMonths_antitone ahead h,
    fun lineAmount amount => ⟨fun unused within => ⟨?_, ?_⟩, fun unused unused' h => ?_⟩,
    fun items taxed endDate endDate' h => prepayRefund_antitone ahead taxed h⟩
  · exact unusedPrepaidMonths_nonneg _ _ _
  · exact unusedPrepaidMonths_lt ahead inside
  · rw [creditForLine_eq, show (0 : ℚ) = euros 0 by simp [euros], euros_le_iff]
    exact creditCents_nonneg (mathRound_cents_nonneg amount) _ _
  · rw [creditForLine_eq, euros_le_iff]
    exact creditCents_le (mathRound_cents_nonneg amount) within
  · rw [creditForLine_eq, creditForLine_eq, euros_le_iff]
    exact creditCents_mono (mathRound_cents_nonneg amount) h

/-- A year from 31 January given up on 28 February leaves ten months. -/
theorem early_termination_credit_year :
    unusedPrepaidMonths (date 2026 1 31) 12 (date 2026 2 28) = 10 :=
  ((early_termination_credit (n := 12) (by decide) (date 2026 1 31)).1 (date 2026 2 28)).trans
    (by decide)

/-- A line of half a cent is given back with a whole one, and a line that takes money off is given
back less the more months are unused. -/
theorem credit_off_line :
    (¬∀ (n : ℕ) (lineAmount : ℚ) (unused : ℤ), 1 < n → 0 ≤ lineAmount → unused < n →
        creditForLine lineAmount n unused ≤ lineAmount) ∧
      ¬∀ (n : ℕ) (lineAmount : ℚ) (unused unused' : ℤ), 1 < n → unused ≤ unused' → unused' < n →
        creditForLine lineAmount n unused ≤ creditForLine lineAmount n unused' := by
  constructor
  · intro within
    have := within 12 (1 / 200) 11 (by decide) (by norm_num) (by decide)
    revert this
    decide +kernel
  · intro more
    have := more 12 (-1) 1 2 (by decide) (by decide) (by decide)
    revert this
    decide +kernel

end StorageOS
