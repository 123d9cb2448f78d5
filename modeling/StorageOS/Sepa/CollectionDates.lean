import StorageOS.Billing.FirstMonth
import Mathlib.Order.Bounds.Basic

/-! The collection date of a SEPA remittance: a TARGET2 business day, after today and at most a year
ahead. -/

namespace StorageOS

open Gregorian

/-- Easter Sunday, by the anonymous Gregorian algorithm. Years are not negative. -/
def easterSunday (year : ℤ) : Date :=
  let a := year % 19
  let b := year / 100
  let c := year % 100
  let d := b / 4
  let e := b % 4
  let f := (b + 8) / 25
  let g := (b - f + 1) / 3
  let h := (19 * a + b - d - g + 15) % 30
  let i := c / 4
  let k := c % 4
  let l := (32 + 2 * e + 2 * i - h - k) % 7
  let m := (a + 11 * h + 22 * l) / 451
  let month := (h + l - 7 * m + 114) / 31
  let day := (h + l - 7 * m + 114) % 31 + 1
  dateUTC year (month - 1) day

/-- The TARGET2 holidays: 1 January, Good Friday, Easter Monday, 1 May, 25 and 26 December. -/
def isTargetHoliday (date : Date) : Bool :=
  let md := (month date, day date)
  if md = (1, 1) || md = (5, 1) || md = (12, 25) || md = (12, 26) then true
  else
    let easter := easterSunday (year date)
    date = easter - 2 || date = easter + 1

/-- A day for SEPA debits: from Monday to Friday and no TARGET2 holiday. -/
def isSepaBusinessDay (date : Date) : Bool :=
  let wd := getUTCDay date
  wd ≠ 0 && wd ≠ 6 && !isTargetHoliday date

/-! ### Easter -/

/-- The year as `Date.UTC` reads it. -/
def utcYear (year : ℤ) : ℤ := if 0 ≤ year ∧ year ≤ 99 then 1900 + year else year

/-- Easter is at most 34 days after 22 March, by as many days as make it a Sunday of a year that
`Date.UTC` does not change. -/
theorem easterSunday_eq (y : ℤ) : ∃ n, easterSunday y = monthStart (12 * utcYear y + 2) + 21 + n ∧
    0 ≤ n ∧ n ≤ 34 ∧ getUTCDay (monthStart (12 * y + 2) + 21 + n) = 0 := by
  have start : ∀ y : ℤ, monthStart (12 * y + 2) = 365 * y + y / 4 - y / 100 + y / 400 - 719468 := by
    intro y
    simp only [monthStart]
    omega
  have april : ∀ y : ℤ, monthStart (12 * y + 3) = monthStart (12 * y + 2) + 31 := by
    intro y
    simp only [monthStart]
    omega
  simp only [easterSunday, dateUTC, getUTCDay]
  rw [← utcYear]
  generalize utcYear y = z
  have hc : y = 100 * (y / 100) + y % 100 := by omega
  have hy4 : y / 4 = 25 * (y / 100) + y % 100 / 4 := by omega
  have hy400 : y / 400 = y / 100 / 4 := by omega
  rw [start y, hy4, hy400]
  have ha : 0 ≤ y % 19 ∧ y % 19 ≤ 18 := by omega
  generalize y % 19 = a at *
  generalize y / 100 = b at *
  generalize y % 100 = c at *
  generalize hh : (19 * a + b - b / 4 - (b - (b + 8) / 25 + 1) / 3 + 15) % 30 = h
  have hh' : 0 ≤ h ∧ h ≤ 29 := by omega
  clear hh
  generalize hl : (32 + 2 * (b % 4) + 2 * (c / 4) - h - c % 4) % 7 = l
  have hl' : 0 ≤ l ∧ l ≤ 6 := by omega
  generalize hm : (a + 11 * h + 22 * l) / 451 = m
  have hm' : m = 0 ∧ a + 11 * h + 22 * l ≤ 450 ∨ m = 1 ∧ 451 ≤ a + 11 * h + 22 * l := by omega
  have sunday : (365 * y + (25 * b + c / 4) - b + b / 4 - 719468 + 21 + (h + l - 7 * m) + 4) % 7 = 0 := by
    clear hm hm' hh' hl' ha
    omega
  clear hl hm hy4 hy400 hc
  have offset : 0 ≤ h + l - 7 * m ∧ h + l - 7 * m ≤ 34 := by omega
  refine ⟨h + l - 7 * m, ?_, offset.1, offset.2, sunday⟩
  generalize h + l - 7 * m = n at offset
  have month : (n + 114) / 31 = 3 ∨ (n + 114) / 31 = 4 := by omega
  rcases month with march | later
  · have two : 12 * z + ((n + 114) / 31 - 1) = 12 * z + 2 := by omega
    rw [two]
    change (_ : ℤ) = _
    omega
  · have three : 12 * z + ((n + 114) / 31 - 1) = 12 * z + 3 := by omega
    rw [three, april]
    change (_ : ℤ) = _
    omega

/-! ### Business days -/

theorem lt_monthStart_year (d : Date) : d < monthStart (12 * (year d + 1)) := by
  have spec := (monthOf_spec d).2
  have later : ¬monthStart (12 * (year d + 1)) < monthStart (monthOf d + 1) := by
    rw [monthStart_lt_iff]
    simp only [year]
    omega
  exact spec.trans_le (not_lt.mp later)

def fixedHoliday (d : Date) : Prop :=
  (month d = 1 ∧ day d = 1) ∨ (month d = 5 ∧ day d = 1) ∨ (month d = 12 ∧ (day d = 25 ∨ day d = 26))

variable {d : Date}

theorem isTargetHoliday_cases (holiday : isTargetHoliday d = true) :
    fixedHoliday d ∨ getUTCDay d = 5 ∨ getUTCDay d = 1 := by
  unfold isTargetHoliday at holiday
  dsimp only at holiday
  split at holiday
  · rename_i md
    simp only [Bool.or_eq_true, decide_eq_true_eq, Prod.mk.injEq] at md
    left
    unfold fixedHoliday
    omega
  · obtain ⟨n, easter, low, high, sunday⟩ := easterSunday_eq (year d)
    have before := lt_monthStart_year d
    simp only [Bool.or_eq_true, decide_eq_true_eq, easter] at holiday
    have modern : utcYear (year d) = year d := by
      unfold utcYear at holiday ⊢
      split
      · rename_i ancient
        rw [if_pos ancient] at holiday
        have apart := monthStart_lt_iff (j := 12 * (year d + 1)) (k := 12 * (1900 + year d) + 2)
        lia
      · rfl
    rw [modern] at holiday
    unfold getUTCDay at sunday ⊢
    lia

theorem next_of_day_lt (early : day d < 28) : monthOf (d + 1) = monthOf d ∧ day (d + 1) = day d + 1 := by
  have month : monthOf (d + 1) = monthOf d := by
    have spec := monthOf_spec d
    have long := monthStart_succ (monthOf d)
    rw [monthOf_eq_iff]
    simp only [day] at early
    omega
  refine ⟨month, ?_⟩
  simp only [day, month]
  omega

theorem not_three_fixed (first : fixedHoliday d) (second : fixedHoliday (d + 1)) : ¬fixedHoliday (d + 2) := by
  have one := next_of_day_lt (d := d) (by unfold fixedHoliday at first; omega)
  have two := next_of_day_lt (d := d + 1) (by unfold fixedHoliday at second; omega)
  rw [add_assoc, one_add_one_eq_two] at two
  unfold fixedHoliday at *
  omega

theorem not_businessDay (closed : isSepaBusinessDay d = false) (midweek : 2 ≤ getUTCDay d)
    (thursday : getUTCDay d ≤ 4) : fixedHoliday d := by
  have holiday : isTargetHoliday d = true := by
    simp only [isSepaBusinessDay, Bool.and_eq_false_iff, decide_eq_false_iff_not, ne_eq, not_not,
      Bool.not_eq_false'] at closed
    rcases closed with (sunday | saturday) | holiday
    · omega
    · omega
    · exact holiday
  rcases isTargetHoliday_cases holiday with fixed | friday | monday
  · exact fixed
  · omega
  · omega

/-- From any day a business day is at most eight days away: one of the next Tuesday, Wednesday and
Thursday. -/
theorem exists_businessDay_le (d : Date) : ∃ k : ℕ, k ≤ 8 ∧ isSepaBusinessDay (d + k) = true := by
  by_contra none_
  have closed : ∀ k : ℕ, k ≤ 8 → isSepaBusinessDay (d + k) = false :=
    fun k le => Bool.eq_false_iff.mpr fun open_ => none_ ⟨k, le, open_⟩
  obtain ⟨t, le, tuesday⟩ : ∃ t : ℕ, t ≤ 6 ∧ getUTCDay (d + t) = 2 :=
    ⟨((2 - getUTCDay d) % 7).toNat, by unfold getUTCDay; lia, by unfold getUTCDay; lia⟩
  have day_ : ∀ j : ℕ, j ≤ 2 → fixedHoliday (d + t + j) := by
    intro j le_
    have shut := closed (t + j) (by omega)
    rw [Nat.cast_add, ← add_assoc] at shut
    unfold getUTCDay at tuesday
    apply not_businessDay shut <;> unfold getUTCDay <;> omega
  have first := day_ 0 (by omega)
  rw [Nat.cast_zero, add_zero] at first
  exact not_three_fixed first (day_ 1 (by omega)) (day_ 2 (by omega))

theorem exists_businessDay (d : Date) : ∃ k : ℕ, isSepaBusinessDay (d + k) = true :=
  (exists_businessDay_le d).imp fun _ found => found.2

theorem find_businessDay_lt (closed : ¬isSepaBusinessDay d = true) :
    Nat.find (exists_businessDay (d + 1)) < Nat.find (exists_businessDay d) := by
  have found := Nat.find_spec (exists_businessDay d)
  obtain ⟨k, waits⟩ : ∃ k, Nat.find (exists_businessDay d) = k + 1 := by
    apply Nat.exists_eq_succ_of_ne_zero
    intro zero
    rw [zero, Nat.cast_zero, add_zero] at found
    exact closed found
  rw [waits, Nat.cast_succ, add_comm (k : ℤ) 1, ← add_assoc] at found
  rw [waits]
  exact Nat.lt_succ_of_le (Nat.find_min' _ found)

def nextSepaBusinessDay (d : Date) : Date :=
  if isSepaBusinessDay d = true then d else nextSepaBusinessDay (d + 1)
termination_by Nat.find (exists_businessDay d)
decreasing_by exact find_businessDay_lt ‹_›

theorem nextSepaBusinessDay_isLeast (d : Date) :
    IsLeast {e | d ≤ e ∧ isSepaBusinessDay e = true} (nextSepaBusinessDay d) := by
  fun_induction nextSepaBusinessDay d with
  | case1 d open_ => exact ⟨⟨le_refl d, open_⟩, fun e mem => mem.1⟩
  | case2 d closed ih =>
    obtain ⟨⟨le, open_⟩, least⟩ := ih
    refine ⟨⟨by lia, open_⟩, fun e ⟨from_, business⟩ => least ⟨?_, business⟩⟩
    have other : d ≠ e := by
      rintro rfl
      exact closed business
    lia

theorem nextSepaBusinessDay_le (d : Date) : nextSepaBusinessDay d ≤ d + 8 := by
  obtain ⟨k, le, business⟩ := exists_businessDay_le d
  have := (nextSepaBusinessDay_isLeast d).2 ⟨by lia, business⟩
  lia

/-! ### The check of a date -/

def SEPA_MAX_COLLECTION_DAYS : ℤ := 365

inductive CollectionDateIssue
  | past
  | tooFar
  | notBusinessDay
  deriving DecidableEq

/-- What is wrong with a collection date, and the date suggested for it. -/
def collectionDateIssue (date today : Date) : Option (CollectionDateIssue × Date) :=
  if date ≤ today then some (.past, nextSepaBusinessDay (today + 1))
  else
    let max := today + SEPA_MAX_COLLECTION_DAYS
    if date > max then some (.tooFar, max)
    else if !isSepaBusinessDay date then some (.notBusinessDay, nextSepaBusinessDay date)
    else none

section

variable {date today : Date}

theorem collectionDateIssue_none_iff : collectionDateIssue date today = none ↔
    today < date ∧ date ≤ today + 365 ∧ isSepaBusinessDay date = true := by
  unfold collectionDateIssue SEPA_MAX_COLLECTION_DAYS
  dsimp only
  split_ifs with past far closed
  · simp only [false_iff]
    lia
  · simp only [false_iff]
    lia
  · rw [Bool.not_eq_true'] at closed
    simp [closed]
  · simp only [Bool.not_eq_true, Bool.not_eq_false'] at closed
    simp only [closed, true_iff, and_true]
    lia

/-- There is a date to suggest: a business day from the date on that is not too far, or the last one
that is not. -/
def Suggestible (date today : Date) : Prop :=
  date ≤ today ∨ (today + 365 < date ∧ isSepaBusinessDay (today + 365) = true) ∨
    ∃ day, date ≤ day ∧ day ≤ today + 365 ∧ isSepaBusinessDay day = true

theorem suggestion_accepted_iff : (∀ issue suggestion,
    collectionDateIssue date today = some (issue, suggestion) →
      collectionDateIssue suggestion today = none) ↔ Suggestible date today := by
  unfold Suggestible
  by_cases past : date ≤ today
  · refine iff_of_true (fun issue suggestion found => ?_) (.inl past)
    rw [collectionDateIssue, if_pos past, Option.some.injEq, Prod.mk.injEq] at found
    obtain ⟨-, rfl⟩ := found
    obtain ⟨⟨after, open_⟩, -⟩ := nextSepaBusinessDay_isLeast (today + 1)
    have near_ := nextSepaBusinessDay_le (today + 1)
    rw [collectionDateIssue_none_iff]
    exact ⟨by lia, by lia, open_⟩
  by_cases far : today + 365 < date
  · have found : collectionDateIssue date today = some (.tooFar, today + 365) := by
      rw [collectionDateIssue, if_neg past]
      exact if_pos far
    have accepted : collectionDateIssue (today + 365) today = none ↔
        isSepaBusinessDay (today + 365) = true := by
      rw [collectionDateIssue_none_iff]
      exact ⟨fun h => h.2.2, fun h => ⟨by lia, le_refl _, h⟩⟩
    constructor
    · intro all
      exact .inr (.inl ⟨far, accepted.mp (all _ _ found)⟩)
    · rintro (early | ⟨-, open_⟩ | ⟨day, after, near_, -⟩) issue suggestion row
      · lia
      · rw [found, Option.some.injEq, Prod.mk.injEq] at row
        rw [← row.2]
        exact accepted.mpr open_
      · lia
  by_cases open_ : isSepaBusinessDay date = true
  · refine iff_of_true (fun issue suggestion found => ?_) (.inr (.inr ⟨date, le_refl _, by lia, open_⟩))
    rw [collectionDateIssue_none_iff.mpr ⟨by lia, by lia, open_⟩] at found
    cases found
  have found : collectionDateIssue date today = some (.notBusinessDay, nextSepaBusinessDay date) := by
    rw [collectionDateIssue, if_neg past]
    dsimp only
    rw [if_neg (by unfold SEPA_MAX_COLLECTION_DAYS; omega), if_pos (by simpa using open_)]
  obtain ⟨⟨after, business⟩, least⟩ := nextSepaBusinessDay_isLeast date
  constructor
  · intro all
    have accepted := collectionDateIssue_none_iff.mp (all _ _ found)
    exact .inr (.inr ⟨_, after, accepted.2.1, business⟩)
  · rintro (early | ⟨beyond, -⟩ | ⟨day, from_, near_, own⟩) issue suggestion row
    · lia
    · lia
    · have first := least ⟨from_, own⟩
      rw [found, Option.some.injEq, Prod.mk.injEq] at row
      rw [← row.2, collectionDateIssue_none_iff]
      exact ⟨by lia, by lia, business⟩

end

def isEasterOf (year : ℤ) (easter : Date) : Prop :=
  getUTCDay easter = 0 ∧ Gregorian.date year 3 22 ≤ easter ∧ easter ≤ Gregorian.date year 4 25

theorem isEasterOf_easterSunday_iff (year : ℤ) :
    isEasterOf year (easterSunday year) ↔ ¬(0 ≤ year ∧ year ≤ 99) := by
  obtain ⟨n, easter, low, high, sunday⟩ := easterSunday_eq year
  have march : 12 * year + 3 - 1 = 12 * year + 2 := by omega
  have april : monthStart (12 * year + 4 - 1) = monthStart (12 * year + 2) + 31 := by
    simp only [monthStart]
    omega
  rw [isEasterOf, Gregorian.date, Gregorian.date, march, april, easter, utcYear]
  split
  · rename_i ancient
    have later := monthStart_lt_iff (j := 12 * year + 4) (k := 12 * (1900 + year) + 2)
    have second := monthStart_succ (12 * year + 2)
    have third := monthStart_succ (12 * year + 3)
    rw [add_assoc] at second third
    norm_num at second third
    refine iff_of_false ?_ (not_not.mpr ancient)
    lia
  · rename_i modern
    refine iff_of_true ⟨sunday, by lia, by lia⟩ modern

/-- The next business day is found, Easter is right outside the first century, and a suggested date
is accepted exactly when there is one to suggest. -/
theorem collection_dates_exact (d : Date) (year : ℤ) (date today : Date) :
    IsLeast {e | d ≤ e ∧ isSepaBusinessDay e = true} (nextSepaBusinessDay d) ∧
      (isEasterOf year (easterSunday year) ↔ ¬(0 ≤ year ∧ year ≤ 99)) ∧
      ((∀ issue suggestion, collectionDateIssue date today = some (issue, suggestion) →
        collectionDateIssue suggestion today = none) ↔ Suggestible date today) :=
  ⟨nextSepaBusinessDay_isLeast d, isEasterOf_easterSunday_iff year, suggestion_accepted_iff⟩

/-- A year after 23 October 2026 is a Saturday. -/
theorem collection_date_suggests_saturday : ¬∀ date today issue suggestion,
    collectionDateIssue date today = some (issue, suggestion) →
      collectionDateIssue suggestion today = none := by
  intro all
  have accepted := all (Gregorian.date 2027 12 1) (Gregorian.date 2026 10 23) .tooFar
    (Gregorian.date 2027 10 23) (by decide)
  exact absurd (collectionDateIssue_none_iff.mp accepted).2.2 (by decide)

end StorageOS
