import Mathlib.Order.Monotone.Basic
import Mathlib.Data.Int.Basic
import Mathlib.Data.Int.Order.Basic
import Mathlib.Algebra.Order.Group.Int

/-! The proleptic Gregorian calendar on day numbers, with day 0 on 1 January 1970. Month `k` is the
month `k % 12` (0 for January) of the year `k / 12`. -/

namespace Gregorian

/-- The day number of the first day of month `k`. Years are counted from March, so that the leap
day is the last of its year. -/
def monthStart (k : ℤ) : ℤ :=
  let y := (k - 2) / 12
  let m := (k - 2) % 12
  365 * y + y / 4 - y / 100 + y / 400 + (153 * m + 2) / 5 - 719468

theorem monthStart_succ (k : ℤ) :
    monthStart k + 28 ≤ monthStart (k + 1) ∧ monthStart (k + 1) ≤ monthStart k + 31 := by
  simp only [monthStart]
  by_cases last : (k - 2) % 12 = 11
  · have hy : (k + 1 - 2) / 12 = (k - 2) / 12 + 1 := by omega
    have hm : (k + 1 - 2) % 12 = 0 := by omega
    rw [hy, hm, last]
    omega
  · have hy : (k + 1 - 2) / 12 = (k - 2) / 12 := by omega
    have hm : (k + 1 - 2) % 12 = (k - 2) % 12 + 1 := by omega
    rw [hy, hm]
    omega

theorem monthStart_lt_iff {j k : ℤ} : monthStart j < monthStart k ↔ j < k := by
  have increases : StrictMono monthStart :=
    strictMono_int_of_lt_succ fun k => by have := monthStart_succ k; omega
  exact increases.lt_iff_lt

/-- Month starts follow the mean month of 146097 / 4800 days to within five days. -/
theorem monthStart_mean (k : ℤ) :
    146097 * (k - 23640) - 24000 ≤ 4800 * monthStart k ∧
      4800 * monthStart k ≤ 146097 * (k - 23640) + 24000 := by
  simp only [monthStart]
  have hk : k - 2 = 12 * ((k - 2) / 12) + (k - 2) % 12 := by omega
  have hm : 0 ≤ (k - 2) % 12 ∧ (k - 2) % 12 < 12 := by omega
  generalize (k - 2) / 12 = y at *
  generalize (k - 2) % 12 = m at *
  constructor <;> omega

def monthOf (n : ℤ) : ℤ :=
  let k := 23640 + 4800 * n / 146097
  if n < monthStart k then k - 1 else if monthStart (k + 1) ≤ n then k + 1 else k

theorem monthOf_spec (n : ℤ) : monthStart (monthOf n) ≤ n ∧ n < monthStart (monthOf n + 1) := by
  simp only [monthOf]
  generalize hk : 23640 + 4800 * n / 146097 = k
  have h0 := monthStart_mean (k - 1)
  have h3 := monthStart_mean (k + 2)
  split
  · refine ⟨by omega, ?_⟩
    rw [sub_add_cancel]
    assumption
  · split
    · refine ⟨by assumption, ?_⟩
      rw [show k + 1 + 1 = k + 2 by omega]
      omega
    · omega

theorem monthOf_eq_iff (n k : ℤ) : monthOf n = k ↔ monthStart k ≤ n ∧ n < monthStart (k + 1) := by
  refine ⟨fun h => h ▸ monthOf_spec n, fun ⟨hlow, hhigh⟩ => ?_⟩
  obtain ⟨hlow', hhigh'⟩ := monthOf_spec n
  have h1 := monthStart_lt_iff.mp (hlow.trans_lt hhigh')
  have h2 := monthStart_lt_iff.mp (hlow'.trans_lt hhigh)
  omega

theorem le_monthOf_iff (n k : ℤ) : k ≤ monthOf n ↔ monthStart k ≤ n := by
  obtain ⟨hlow, hhigh⟩ := monthOf_spec n
  constructor
  · intro h
    have : ¬monthStart (monthOf n) < monthStart k := fun before => by
      have := monthStart_lt_iff.mp before
      omega
    omega
  · intro h
    have := monthStart_lt_iff.mp (h.trans_lt hhigh)
    omega

theorem monthOf_mono {m n : ℤ} (h : m ≤ n) : monthOf m ≤ monthOf n :=
  (le_monthOf_iff n _).mpr ((monthOf_spec m).1.trans h)

def year (n : ℤ) : ℤ := monthOf n / 12

theorem year_mono {m n : ℤ} (h : m ≤ n) : year m ≤ year n :=
  Int.ediv_le_ediv (by decide) (monthOf_mono h)

def month (n : ℤ) : ℤ := monthOf n % 12 + 1

def day (n : ℤ) : ℤ := n - monthStart (monthOf n) + 1

def date (year month day : ℤ) : ℤ := monthStart (12 * year + month - 1) + day - 1

example : date 2024 2 29 + 1 = date 2024 3 1 := by decide

/-! The days of a month. The day of a date some months on is the same day of the month, or the last
day of a month that does not have it. -/

/-- The number of days of month `k`. -/
def monthLength (k : ℤ) : ℤ := monthStart (k + 1) - monthStart k

theorem monthLength_bounds (k : ℤ) : 28 ≤ monthLength k ∧ monthLength k ≤ 31 := by
  have := monthStart_succ k
  simp only [monthLength]
  omega

theorem day_pos (n : ℤ) : 1 ≤ day n := by
  have := (monthOf_spec n).1
  simp only [day]
  omega

theorem day_le (n : ℤ) : day n ≤ monthLength (monthOf n) := by
  have := (monthOf_spec n).2
  simp only [day, monthLength]
  omega

/-- Day `n` of month `k`, or the last day of the month when it has fewer. -/
def onDay (k n : ℤ) : ℤ := monthStart k + min n (monthLength k) - 1

theorem onDay_day (n : ℤ) : onDay (monthOf n) (day n) = n := by
  rw [onDay, min_eq_left (day_le n), day]
  omega

section

variable {j k n m : ℤ}

theorem onDay_mem (h : 1 ≤ n) : monthStart k ≤ onDay k n ∧ onDay k n < monthStart (k + 1) := by
  have := monthLength_bounds k
  have hlen : monthStart (k + 1) = monthStart k + monthLength k := by
    simp only [monthLength]
    omega
  simp only [onDay]
  omega

@[simp] theorem monthOf_onDay (h : 1 ≤ n) : monthOf (onDay k n) = k :=
  (monthOf_eq_iff _ _).mpr (onDay_mem h)

@[simp] theorem day_onDay (h : 1 ≤ n) : day (onDay k n) = min n (monthLength k) := by
  rw [day, monthOf_onDay h, onDay]
  omega

theorem monthStart_sub_one (k : ℤ) : monthStart (k + 1) - 1 = onDay k (monthLength k) := by
  rw [onDay, min_self, monthLength]
  omega

theorem onDay_lt_onDay (hn : 1 ≤ n) (hm : 1 ≤ m) (h : j < k) : onDay j n < onDay k m := by
  have before := (onDay_mem (k := j) hn).2
  have after := (onDay_mem (k := k) hm).1
  have months : monthStart (j + 1) ≤ monthStart k := by
    rcases Int.lt_or_eq_of_le (Int.add_one_le_of_lt h) with hlt | heq
    · exact (monthStart_lt_iff.mpr hlt).le
    · rw [heq]
  omega

theorem onDay_lt_iff (h : 1 ≤ n) : onDay j n < onDay k n ↔ j < k := by
  refine ⟨fun hlt => ?_, onDay_lt_onDay h h⟩
  by_contra hge
  rcases Int.lt_or_eq_of_le (not_lt.mp hge) with hgt | rfl
  · have := onDay_lt_onDay h h hgt
    omega
  · omega

end

end Gregorian
