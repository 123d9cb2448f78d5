import Mathlib.Algebra.BigOperators.Group.List.Basic
import Mathlib.Tactic.Ring

/-! Funds that pay debts in their order while they last. -/

namespace Waterfall

variable {ρ : Type*} (due : ρ → ℤ)

def owed (rows : List ρ) : ℤ := (rows.map fun row => max 0 (due row)).sum

def part (row : ρ) (funds : ℤ) : ℤ := max 0 (min (due row) funds)

variable {due}

@[simp] theorem owed_nil : owed due [] = 0 := rfl

@[simp] theorem owed_cons (row : ρ) (rest : List ρ) :
    owed due (row :: rest) = max 0 (due row) + owed due rest := by
  simp [owed]

theorem owed_nonneg (rows : List ρ) : 0 ≤ owed due rows := by
  induction rows with
  | nil => simp
  | cons row rest ih =>
    rw [owed_cons]
    omega

theorem owed_mono {due' : ρ → ℤ} {rows : List ρ} (h : ∀ row ∈ rows, due row ≤ due' row) :
    owed due rows ≤ owed due' rows := by
  induction rows with
  | nil => simp
  | cons row rest ih =>
    have first := h row List.mem_cons_self
    have others := ih fun r mem => h r (List.mem_cons_of_mem _ mem)
    rw [owed_cons, owed_cons]
    omega

theorem part_of_nonneg {funds : ℤ} (nonneg : 0 ≤ funds) (row : ρ) :
    part due row funds = min (max 0 (due row)) funds := by
  rw [part]
  omega

theorem part_of_spent {funds : ℤ} (spent : funds ≤ 0) (row : ρ) : part due row funds = 0 := by
  rw [part]
  omega

theorem part_cons (first row : ρ) (before : List ρ) {funds : ℤ} (nonneg : 0 ≤ funds) :
    part due row (funds - owed due (first :: before)) =
      part due row (funds - part due first funds - owed due before) := by
  have owes : 0 ≤ owed due before := owed_nonneg before
  rw [owed_cons, part, part, part_of_nonneg nonneg]
  omega

end Waterfall
