import Mathlib.Data.Int.Order.Basic
import Mathlib.Data.List.Count
import Mathlib.Tactic.Cases

/-! Closed intervals of integers that tile an initial segment of a half-line: every point from the
start on is in one interval up to the last point, and in none after it. -/

/-- The integers from `first` to `last`, none when `last` is before `first`. -/
structure Period where
  first : ℤ
  last : ℤ
  deriving DecidableEq

namespace Period

def Overlaps (p q : Period) : Prop := p.first ≤ q.last ∧ q.first ≤ p.last

instance (p q : Period) : Decidable (p.Overlaps q) := inferInstanceAs (Decidable (_ ∧ _))

def times (l : List Period) (d : ℤ) : ℕ := l.countP fun p => p.first ≤ d ∧ d ≤ p.last

/-- From `start` on, the points up to `last` are in one interval each and the later ones in none. -/
def Tiles (start last : ℤ) (l : List Period) : Prop :=
  ∀ d, start ≤ d → times l d = if d ≤ last then 1 else 0

variable {start last : ℤ} {l : List Period} {q : Period}

theorem times_append_singleton (l : List Period) (q : Period) (d : ℤ) :
    times (l ++ [q]) d = times l d + if q.first ≤ d ∧ d ≤ q.last then 1 else 0 := by
  simp [times, List.countP_append, List.countP_cons]

theorem times_eq_zero {d : ℤ} (h : ∀ p ∈ l, ¬(p.first ≤ d ∧ d ≤ p.last)) : times l d = 0 := by
  rw [times, List.countP_eq_zero]
  intro p mem
  simpa using h p mem

theorem Tiles.nil (h : last < start) : Tiles start last [] := by
  intro d from_start
  rw [if_neg (by omega)]
  rfl

/-- An interval apart from the others, with no point left out before it, continues the tiling. -/
theorem Tiles.concat (tiles : Tiles start last l) (apart : ∀ p ∈ l, ¬p.Overlaps q)
    (reach : ∀ d, start ≤ d → d < q.first → d ≤ last) :
    Tiles start (max last q.last) (l ++ [q]) := by
  intro d from_start
  rw [times_append_singleton]
  by_cases inside : q.first ≤ d ∧ d ≤ q.last
  · have fresh : times l d = 0 := times_eq_zero fun p mem within =>
      apart p mem ⟨by omega, by omega⟩
    rw [fresh, if_pos inside, if_pos (by omega)]
  · rw [if_neg inside, Nat.add_zero, tiles d from_start]
    have := reach d from_start
    by_cases before : d ≤ last
    · rw [if_pos before, if_pos (by omega)]
    · rw [if_neg before, if_neg (by omega)]

end Period
