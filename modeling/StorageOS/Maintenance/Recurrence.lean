import StorageOS.Billing.Rows
import StorageOS.Lib.Gregorian
import Mathlib.Tactic.Ring
import Mathlib.Tactic.Linarith
import Mathlib.Logic.Function.Iterate

/-! The recurrence of maintenance: daily every some days, weekly on some weekdays, or monthly on a day
of every so many months. -/

namespace StorageOS

open Gregorian

inductive MaintenanceFreq
  | daily
  | weekly
  | monthly
  deriving DecidableEq

/-- From Sunday. -/
abbrev Weekday := Fin 7

/-- A day that every month has. -/
abbrev DayOfMonth := {n : ℤ // 1 ≤ n ∧ n ≤ 28}

structure RecurrenceSpec where
  freq : MaintenanceFreq
  interval : ℤ
  weekdays : List Weekday
  dayOfMonth : Option DayOfMonth
  deriving DecidableEq

/-- `getUTCDay`: the first of January 1970 was a Thursday. -/
def weekday (d : Date) : Weekday := ⟨((d + 4) % 7).toNat, by omega⟩

/-- `Date.UTC`, which reads the years 0 to 99 as of the twentieth century. Months count from 0. -/
def dateUtc (year month day : ℤ) : Date :=
  monthStart (12 * (if 0 ≤ year ∧ year ≤ 99 then 1900 + year else year) + month) + day - 1

def dateOnlyUtc (d : Date) : Date := dateUtc (year d) (month d - 1) (day d)

def addDaysUtc (d : Date) (days : ℤ) : Date := d + days

def nextOccurrence (spec : RecurrenceSpec) (after : Date) : Date :=
  let base := dateOnlyUtc after
  match spec.freq with
  | .daily => addDaysUtc base (max 1 spec.interval)
  | .weekly =>
    let days := if spec.weekdays ≠ [] then spec.weekdays else [weekday base]
    (([1, 2, 3, 4, 5, 6, 7].map (addDaysUtc base)).find? (weekday · ∈ days)).getD
      (addDaysUtc base 7)
  | .monthly =>
    let dom := spec.dayOfMonth.elim (day base) Subtype.val
    dateOnlyUtc (dateUtc (year base) (month base - 1 + max 1 spec.interval) dom)

def firstOccurrence (spec : RecurrenceSpec) (startDate : Date) : Date :=
  let start := dateOnlyUtc startDate
  match spec.freq with
  | .daily => start
  | .weekly =>
    let days := if spec.weekdays ≠ [] then spec.weekdays else [weekday start]
    if weekday start ∈ days then start else nextOccurrence spec start
  | .monthly =>
    let dom := spec.dayOfMonth.elim (day start) Subtype.val
    let candidate := dateUtc (year start) (month start - 1) dom
    if start ≤ candidate then candidate
    else dateOnlyUtc (dateUtc (year start) (month start - 1 + 1) dom)

/-- The weekdays of a weekly recurrence and the day of a monthly one are given. -/
structure RecurrenceSpec.Valid (spec : RecurrenceSpec) : Prop where
  weekly : spec.freq = .weekly → spec.weekdays ≠ []
  monthly : spec.freq = .monthly → spec.dayOfMonth ≠ none

/-- A date of the schedule that starts on a day: each `interval` days, the chosen weekdays, or the
chosen day of each `interval` months, from the first one that is not past. -/
def RecurrenceSpec.Scheduled (spec : RecurrenceSpec) (start d : Date) : Prop :=
  match spec.freq with
  | .daily => ∃ k : ℕ, d = start + k * max 1 spec.interval
  | .weekly => start ≤ d ∧ weekday d ∈ spec.weekdays
  | .monthly => ∃ dom, spec.dayOfMonth = some dom ∧ day d = dom ∧ ∃ k : ℕ,
    monthOf d = monthOf start + (if day start ≤ dom then 0 else 1) + k * max 1 spec.interval

/-! ### Dates -/

/-- A date that `Date.UTC` reads as it is. -/
def Dated (d : Date) : Prop := 100 ≤ year d

variable {d : Date}

theorem Dated.later {d' : Date} (dated : Dated d) (later : d ≤ d') : Dated d' :=
  dated.trans (year_mono later)

theorem month_year (d : Date) : 12 * year d + (month d - 1) = monthOf d := by
  simp only [year, month]
  omega

theorem dateUtc_dated {y : ℤ} (dated : 100 ≤ y) (month day : ℤ) :
    dateUtc y month day = monthStart (12 * y + month) + day - 1 := by
  rw [dateUtc, if_neg (by omega)]

theorem dateOnlyUtc_dated (dated : Dated d) : dateOnlyUtc d = d := by
  rw [dateOnlyUtc, dateUtc_dated dated, month_year, day]
  lia

theorem day_bounds (d : Date) : 1 ≤ day d ∧ monthStart (monthOf d) + day d = d + 1 := by
  have := (monthOf_spec d).1
  simp only [day]
  omega

theorem monthOf_chosen (k : ℤ) (dom : DayOfMonth) :
    monthOf (monthStart k + dom.1 - 1) = k ∧ day (monthStart k + dom.1 - 1) = dom.1 := by
  have length := monthStart_succ k
  have bounds := dom.2
  have same : monthOf (monthStart k + dom.1 - 1) = k :=
    (monthOf_eq_iff _ _).mpr ⟨by omega, by omega⟩
  refine ⟨same, ?_⟩
  rw [day, same]
  omega

theorem dated_dateOnlyUtc (h : 0 ≤ year d) : Dated (dateOnlyUtc d) := by
  by_cases old : year d ≤ 99
  · have bounds := day_bounds d
    have spec := monthOf_spec d
    rw [dateOnlyUtc, dateUtc, if_pos ⟨h, old⟩, Dated, year]
    have := month_year d
    have later : 12 * (1900 + year d) + (month d - 1) ≤
        monthOf (monthStart (12 * (1900 + year d) + (month d - 1)) + day d - 1) :=
      (le_monthOf_iff _ _).mpr (by omega)
    have := (show 1 ≤ month d by simp only [month]; omega)
    omega
  · rw [dateOnlyUtc_dated (show Dated d by rw [Dated]; omega)]
    rw [Dated]
    omega

/-! ### The following date -/

theorem mem_week {n : ℤ} (h : 1 ≤ n ∧ n ≤ 7) : n ∈ ([1, 2, 3, 4, 5, 6, 7] : List ℤ) := by
  simp only [List.mem_cons, List.not_mem_nil, or_false]
  omega

theorem weekday_reached (base : ℤ) (w : Weekday) :
    ∃ i ∈ ([1, 2, 3, 4, 5, 6, 7] : List ℤ), weekday (addDaysUtc base i) = w := by
  obtain ⟨w, bound⟩ := w
  refine ⟨(w - (base + 4) - 1) % 7 + 1, mem_week (by omega), Fin.ext ?_⟩
  simp only [weekday, addDaysUtc]
  omega

theorem lt_monthStart {k : ℤ} (later : monthOf d < k) : d < monthStart k :=
  not_le.mp fun before => absurd ((le_monthOf_iff d k).mpr before) (not_le.mpr later)

section

variable (spec : RecurrenceSpec) {d : Date} (dated : Dated d)

include dated

theorem nextOccurrence_daily (daily : spec.freq = .daily) :
    nextOccurrence spec d = d + max 1 spec.interval := by
  rw [nextOccurrence, dateOnlyUtc_dated dated, daily]
  rfl

theorem nextOccurrence_weekly (weekly : spec.freq = .weekly) (some_ : spec.weekdays ≠ []) :
    d < nextOccurrence spec d ∧ weekday (nextOccurrence spec d) ∈ spec.weekdays := by
  rw [nextOccurrence, dateOnlyUtc_dated dated, weekly]
  dsimp only
  rw [if_pos some_]
  obtain ⟨w, listed⟩ := List.exists_mem_of_ne_nil _ some_
  obtain ⟨i, near, reached⟩ := weekday_reached d w
  cases found : ([1, 2, 3, 4, 5, 6, 7].map (addDaysUtc d)).find? (weekday · ∈ spec.weekdays) with
  | none =>
    have missed := List.find?_eq_none.mp found _ (List.mem_map_of_mem near)
    rw [reached] at missed
    simp [listed] at missed
  | some c =>
    obtain ⟨j, near', rfl⟩ := List.mem_map.mp (List.mem_of_find?_eq_some found)
    have later : (1 : ℤ) ≤ j := by
      simp at near'
      omega
    refine ⟨?_, by simpa using List.find?_some found⟩
    simp only [Option.getD_some, addDaysUtc]
    lia

theorem nextOccurrence_monthly (monthly : spec.freq = .monthly) {dom : DayOfMonth}
    (chosen : spec.dayOfMonth = some dom) :
    nextOccurrence spec d = monthStart (monthOf d + max 1 spec.interval) + dom.1 - 1 := by
  have later : d < monthStart (monthOf d + max 1 spec.interval) := lt_monthStart (by lia)
  have bounds := dom.2
  have next : dateUtc (year d) (month d - 1 + max 1 spec.interval) dom.1 =
      monthStart (monthOf d + max 1 spec.interval) + dom.1 - 1 := by
    rw [dateUtc_dated dated, ← add_assoc, month_year]
  rw [nextOccurrence, dateOnlyUtc_dated dated, monthly]
  dsimp only
  rw [chosen, Option.elim_some, next, dateOnlyUtc_dated (dated.later (by lia))]

theorem lt_nextOccurrence (valid : spec.Valid) : d < nextOccurrence spec d := by
  cases freq : spec.freq with
  | daily =>
    rw [nextOccurrence_daily spec dated freq]
    lia
  | weekly => exact (nextOccurrence_weekly spec dated freq (valid.weekly freq)).1
  | monthly =>
    obtain ⟨dom, chosen⟩ := Option.ne_none_iff_exists'.mp (valid.monthly freq)
    rw [nextOccurrence_monthly spec dated freq chosen]
    have later : d < monthStart (monthOf d + max 1 spec.interval) := lt_monthStart (by lia)
    have bounds := dom.2
    lia

theorem nextOccurrence_scheduled (valid : spec.Valid) {start : Date}
    (scheduled : spec.Scheduled start d) : spec.Scheduled start (nextOccurrence spec d) := by
  cases freq : spec.freq with
  | daily =>
    rw [nextOccurrence_daily spec dated freq]
    simp only [RecurrenceSpec.Scheduled, freq] at scheduled ⊢
    obtain ⟨k, rfl⟩ := scheduled
    exact ⟨k + 1, by push_cast; ring⟩
  | weekly =>
    obtain ⟨later, chosen⟩ := nextOccurrence_weekly spec dated freq (valid.weekly freq)
    simp only [RecurrenceSpec.Scheduled, freq] at scheduled ⊢
    exact ⟨scheduled.1.trans later.le, chosen⟩
  | monthly =>
    simp only [RecurrenceSpec.Scheduled, freq] at scheduled ⊢
    obtain ⟨dom, chosen, -, k, months⟩ := scheduled
    rw [nextOccurrence_monthly spec dated freq chosen]
    obtain ⟨month, day⟩ := monthOf_chosen (monthOf d + max 1 spec.interval) dom
    exact ⟨dom, chosen, day, k + 1, by rw [month, months]; push_cast; ring⟩

end

theorem firstOccurrence_scheduled {spec : RecurrenceSpec} (valid : spec.Valid) (h : 0 ≤ year d) :
    spec.Scheduled (dateOnlyUtc d) (firstOccurrence spec d) ∧
      dateOnlyUtc d ≤ firstOccurrence spec d := by
  have dated := dated_dateOnlyUtc h
  generalize start_ : dateOnlyUtc d = start at dated ⊢
  rw [firstOccurrence, start_]
  simp only [RecurrenceSpec.Scheduled]
  cases freq : spec.freq with
  | daily => exact ⟨⟨0, by simp⟩, le_rfl⟩
  | weekly =>
    have some_ := valid.weekly freq
    dsimp only
    rw [if_pos some_]
    split
    · rename_i chosen
      exact ⟨⟨le_rfl, chosen⟩, le_rfl⟩
    · obtain ⟨later, chosen⟩ := nextOccurrence_weekly spec dated freq some_
      exact ⟨⟨later.le, chosen⟩, later.le⟩
  | monthly =>
    obtain ⟨dom, chosen⟩ := Option.ne_none_iff_exists'.mp (valid.monthly freq)
    have bounds := dom.2
    obtain ⟨low, first⟩ := day_bounds start
    have this_ : dateUtc (year start) (month start - 1) dom.1 =
        monthStart (monthOf start) + dom.1 - 1 := by
      rw [dateUtc_dated dated, month_year]
    have next : dateUtc (year start) (month start - 1 + 1) dom.1 =
        monthStart (monthOf start + 1) + dom.1 - 1 := by
      rw [dateUtc_dated dated, ← add_assoc, month_year]
    dsimp only
    rw [chosen, Option.elim_some, this_, next]
    split
    · rename_i ahead
      obtain ⟨month, day_⟩ := monthOf_chosen (monthOf start) dom
      refine ⟨⟨dom, rfl, day_, 0, ?_⟩, ahead⟩
      rw [month, if_pos (by lia)]
      simp
    · rename_i past
      have later : start < monthStart (monthOf start + 1) := lt_monthStart (by lia)
      rw [dateOnlyUtc_dated (dated.later (by lia))]
      obtain ⟨month, day_⟩ := monthOf_chosen (monthOf start + 1) dom
      refine ⟨⟨dom, rfl, day_, 0, ?_⟩, by lia⟩
      rw [month, if_neg (by lia)]
      simp

/-! ### Catching up -/

/-- The dates that a generation passes until one is after its day. -/
def catchUp (spec : RecurrenceSpec) (today : Date) : ℕ → Date → Date
  | 0, next => next
  | guard + 1, next =>
    if next ≤ today then catchUp spec today guard (nextOccurrence spec next) else next

section

variable {spec : RecurrenceSpec} (valid : spec.Valid) {d : Date} (dated : Dated d)

include valid dated

theorem le_catchUp (today : Date) (guard : ℕ) : d ≤ catchUp spec today guard d := by
  induction guard generalizing d with
  | zero => exact le_rfl
  | succ guard ih =>
    rw [catchUp]
    split
    · have later := lt_nextOccurrence spec dated valid
      exact later.le.trans (ih (dated.later later.le))
    · exact le_rfl

theorem catchUp_scheduled {start : Date} (today : Date) (guard : ℕ)
    (scheduled : spec.Scheduled start d) : spec.Scheduled start (catchUp spec today guard d) := by
  induction guard generalizing d with
  | zero => exact scheduled
  | succ guard ih =>
    rw [catchUp]
    split
    · exact ih (dated.later (lt_nextOccurrence spec dated valid).le)
        (nextOccurrence_scheduled spec dated valid scheduled)
    · exact scheduled

theorem le_iterate (n : ℕ) : d ≤ (nextOccurrence spec)^[n] d := by
  induction n generalizing d with
  | zero => exact le_rfl
  | succ n ih =>
    have later := lt_nextOccurrence spec dated valid
    rw [Function.iterate_succ_apply]
    exact later.le.trans (ih (dated.later later.le))

theorem iterate_mono {m n : ℕ} (h : m ≤ n) :
    (nextOccurrence spec)^[m] d ≤ (nextOccurrence spec)^[n] d := by
  obtain ⟨k, rfl⟩ := Nat.exists_eq_add_of_le' h
  rw [Function.iterate_add_apply]
  exact le_iterate valid (dated.later (le_iterate valid dated m)) k

/-- A generation reaches a date after its day exactly when few enough dates are not. -/
theorem lt_catchUp_iff (today : Date) (guard : ℕ) :
    today < catchUp spec today guard d ↔ today < (nextOccurrence spec)^[guard] d := by
  induction guard generalizing d with
  | zero => rfl
  | succ guard ih =>
    rw [catchUp, Function.iterate_succ_apply]
    have later := lt_nextOccurrence spec dated valid
    split
    · exact ih (dated.later later.le)
    · rename_i past
      have reached := le_iterate valid (dated.later later.le) guard
      constructor
      · intro _
        exact (not_le.mp past).trans_le (later.le.trans reached)
      · exact fun _ => not_le.mp past

end

end StorageOS
