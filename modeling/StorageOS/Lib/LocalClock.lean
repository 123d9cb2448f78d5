import Mathlib.Data.Int.Basic
import Mathlib.Data.Int.Order.Basic
import Mathlib.Algebra.Order.Group.Int
import Mathlib.Algebra.Order.Group.Abs
import Mathlib.Tactic.Push

/-! A clock that is put forward or back. It reads the time plus an offset, and a change of the offset
is at most `largest`. -/

structure LocalClock (largest : ℤ) where
  offset : ℤ → ℤ
  change_le : ∀ t, |offset (t + 1) - offset t| ≤ largest

namespace LocalClock

variable {largest : ℤ}

def reading (c : LocalClock largest) (t : ℤ) : ℤ := t + c.offset t

/-- What the clock would read with the offset of the instant before. -/
def unchanged (c : LocalClock largest) (t : ℤ) : ℤ := t + c.offset (t - 1)

def Changes (c : LocalClock largest) (t : ℤ) : Prop := c.offset (t - 1) ≠ c.offset t

/-- The clock is changed at most once from `lo` to `hi`. -/
def OnceIn (c : LocalClock largest) (lo hi : ℤ) : Prop :=
  ∀ t t', c.Changes t → c.Changes t' → lo ≤ t → t ≤ hi → lo ≤ t' → t' ≤ hi → t = t'

variable {c : LocalClock largest} {s t lo hi : ℤ}

theorem offset_eq_of_no_change (h : s ≤ t) (kept : ∀ u, s < u → u ≤ t → ¬c.Changes u) :
    c.offset s = c.offset t := by
  induction t, h using Int.leInduction with
  | base => rfl
  | succ t h ih =>
    have before := ih fun u after upTo => kept u after (by omega)
    have last := kept (t + 1) (by omega) (le_refl _)
    rw [Changes, not_not, add_sub_cancel_right] at last
    exact before.trans last

theorem OnceIn.offset_after (once : c.OnceIn lo hi) {u : ℤ} (changes : c.Changes u) (from_lo : lo ≤ u)
    (h : u ≤ t) (upTo_hi : t ≤ hi) : c.offset t = c.offset u :=
  (offset_eq_of_no_change h fun v after upTo changes' => by
    have := once v u changes' changes (by omega) (by omega) (by omega) (by omega)
    omega).symm

theorem OnceIn.offset_before (once : c.OnceIn lo hi) {u : ℤ} (changes : c.Changes u)
    (upTo_hi : u ≤ hi) (from_lo : lo ≤ s + 1) (h : s < u) : c.offset s = c.offset (u - 1) :=
  offset_eq_of_no_change (by omega) fun v after upTo changes' => by
    have := once v u changes' changes (by omega) (by omega) (by omega) (by omega)
    omega

/-- The offsets of two instants are the same, or those before and after the one change. -/
theorem OnceIn.offset_cases (once : c.OnceIn lo hi) (from_lo : lo ≤ s + 1) (h : s ≤ t)
    (upTo_hi : t ≤ hi) : c.offset s = c.offset t ∨
      ∃ u, s < u ∧ u ≤ t ∧ c.Changes u ∧ c.offset s = c.offset (u - 1) ∧ c.offset t = c.offset u := by
  by_cases changed : ∃ u, s < u ∧ u ≤ t ∧ c.Changes u
  · obtain ⟨u, after, upTo, changes⟩ := changed
    exact .inr ⟨u, after, upTo, changes,
      once.offset_before changes (by omega) from_lo after,
      once.offset_after changes (by omega) upTo upTo_hi⟩
  · exact .inl (offset_eq_of_no_change h fun u after upTo changes => changed ⟨u, after, upTo, changes⟩)

theorem change_le' (c : LocalClock largest) (t : ℤ) :
    c.offset t - c.offset (t - 1) ≤ largest ∧ c.offset (t - 1) - c.offset t ≤ largest := by
  have := abs_le.mp (c.change_le (t - 1))
  rw [sub_add_cancel] at this
  omega

theorem le_reading_iff {m z : ℤ} (forward : ∀ t, ¬(c.reading t < m ∧ m < c.unchanged t))
    (low : c.reading (z - 1) < m) (high : m ≤ c.reading z) : m ≤ c.reading t ↔ z ≤ t := by
  have step : ∀ t, m ≤ c.reading (t - 1) → m ≤ c.reading t := by
    intro t passed
    by_contra back
    refine forward t ⟨not_le.mp back, ?_⟩
    rw [unchanged]
    rw [reading] at passed
    omega
  have stays : ∀ s, m ≤ c.reading s → ∀ t, s ≤ t → m ≤ c.reading t := by
    intro s passed t later
    induction t, later using Int.leInduction with
    | base => exact passed
    | succ u _ ih => exact step (u + 1) (by rwa [add_sub_cancel_right])
  constructor
  · intro passed
    by_contra early
    have := stays t passed (z - 1) (by omega)
    omega
  · exact stays z high t

end LocalClock
