import StorageOS.Lib.Gregorian
import StorageOS.Lib.LocalClock
import Mathlib.Order.Bounds.Basic

/-! The days of a time zone as intervals of instants, in milliseconds from the start of 1970. The
start of a local day is found with the offset of the zone at midnight UTC, and once more with the
offset at the instant found. -/

namespace StorageOS

def dayLength : ℤ := 86400000

def hourLength : ℤ := 3600000

/-- The local clock of a time zone, changed by at most an hour at a time. -/
abbrev TimeZone := LocalClock hourLength

def todayInTimezone (z : TimeZone) (now : ℤ) : ℤ := z.reading now / dayLength

def zonedDayStart (z : TimeZone) (day : ℤ) : ℤ :=
  let utcMidnight := day * dayLength
  let t := utcMidnight - z.offset utcMidnight
  let second := utcMidnight - z.offset t
  if second ≠ t then second else t

def zonedNextDayStart (z : TimeZone) (day : ℤ) : ℤ := zonedDayStart z (day + 1)

/-- Each day starts at its first instant, the next day starts where it ends, and between them are
exactly the instants of the day. -/
def DaysTile (z : TimeZone) : Prop :=
  ∀ day, IsLeast { t | todayInTimezone z t = day } (zonedDayStart z day) ∧
    zonedNextDayStart z day = zonedDayStart z (day + 1) ∧
    ∀ t, zonedDayStart z day ≤ t ∧ t < zonedNextDayStart z day ↔ todayInTimezone z t = day

def OneChangeADay (z : TimeZone) : Prop :=
  ∀ t t', z.Changes t → z.Changes t' → todayInTimezone z (t - 1) = todayInTimezone z (t' - 1) → t = t'

/-- The midnight of a day as read with the offset at midnight UTC. -/
def firstGuess (z : TimeZone) (day : ℤ) : ℤ := day * dayLength - z.offset (day * dayLength)

/-- The clock is changed at most once between the midnight UTC of a day and its first guess, an hour
around them included. -/
def ChangesOnce (z : TimeZone) (day : ℤ) : Prop :=
  z.OnceIn (min (day * dayLength) (firstGuess z day) - hourLength)
    (max (day * dayLength) (firstGuess z day) + hourLength)

/-- No change passes over the midnight of a day or goes back over it. One goes forward from midnight
at midnight UTC or before it, and back to midnight after midnight UTC. -/
structure ClearsMidnight (z : TimeZone) (day : ℤ) : Prop where
  passes : ∀ t, ¬(z.unchanged t < day * dayLength ∧ day * dayLength < z.reading t)
  repeats : ∀ t, ¬(z.reading t < day * dayLength ∧ day * dayLength < z.unchanged t)
  forward : ∀ t, z.unchanged t = day * dayLength → day * dayLength < z.reading t → t ≤ day * dayLength
  back : ∀ t, z.reading t = day * dayLength → day * dayLength < z.unchanged t → day * dayLength < t

section

variable {z : TimeZone} {day t : ℤ}

theorem zonedDayStart_eq (z : TimeZone) (day : ℤ) :
    zonedDayStart z day = day * dayLength - z.offset (firstGuess z day) := by
  simp only [zonedDayStart, firstGuess]
  split
  · rfl
  · rename_i same
    exact (not_not.mp same).symm

/-- The day starts at an instant that reads midnight or later, after one that reads earlier. -/
theorem passes_midnight_iff (z : TimeZone) (day : ℤ) :
    z.reading (zonedDayStart z day - 1) < day * dayLength ∧ day * dayLength ≤ z.reading (zonedDayStart z day) ↔
      z.offset (zonedDayStart z day - 1) ≤ z.offset (firstGuess z day) ∧
        z.offset (firstGuess z day) ≤ z.offset (zonedDayStart z day) := by
  have := zonedDayStart_eq z day
  simp only [LocalClock.reading]
  omega

/-- Where the clock is changed at most once around midnight and clears it, the day starts as the
clock passes midnight. -/
theorem passes_midnight (once : ChangesOnce z day) (clears : ClearsMidnight z day) :
    z.reading (zonedDayStart z day - 1) < day * dayLength ∧
      day * dayLength ≤ z.reading (zonedDayStart z day) := by
  rw [passes_midnight_iff]
  have hstart := zonedDayStart_eq z day
  have hguess : firstGuess z day = day * dayLength - z.offset (day * dayLength) := rfl
  have hhour : hourLength = 3600000 := rfl
  unfold ChangesOnce at once
  have passes := clears.passes
  have repeats := clears.repeats
  have forward := clears.forward
  have back := clears.back
  simp only [LocalClock.reading, LocalClock.unchanged] at passes repeats forward back
  generalize firstGuess z day = guess at *
  generalize zonedDayStart z day = start at *
  generalize day * dayLength = midnight at *
  rcases le_total midnight guess with behind | ahead
  · rcases once.offset_cases (by omega) behind (by omega) with
      same | ⟨u, after, upTo, changes, isOffset, isGuess⟩
    · have at_guess : start = guess := by omega
      refine ⟨not_lt.mp fun higher => ?_, by rw [at_guess]⟩
      have late := back start (by rw [at_guess] at *; omega) (by omega)
      have changes : z.Changes start := by
        rw [LocalClock.Changes, at_guess] at *
        omega
      have := once.offset_before changes (s := midnight) (by omega) (by omega) late
      omega
    · have no_skip := forward u
      have no_pass := passes u
      have change := z.change_le' u
      have settled : ∀ t, u ≤ t → t ≤ max guess start → z.offset t = z.offset u :=
        fun t from_u upTo => once.offset_after changes (by omega) from_u (by omega)
      have reached : u ≤ start := by omega
      have starts := settled start reached (le_max_right _ _)
      rcases Int.lt_or_eq_of_le reached with later | rfl
      · have := settled (start - 1) (by omega) (by omega)
        omega
      · omega
  · rcases once.offset_cases (by omega) ahead (by omega) with
      same | ⟨u, after, upTo, changes, isGuess, isOffset⟩
    · have at_guess : start = guess := by omega
      refine ⟨not_lt.mp fun higher => ?_, by rw [at_guess]⟩
      have late := back start (by rw [at_guess] at *; omega) (by omega)
      omega
    · have no_pass := passes u
      have change := z.change_le' u
      have kept : ∀ t, guess - hourLength ≤ t + 1 → t < u → z.offset t = z.offset (u - 1) :=
        fun t from_lo before => once.offset_before changes (by omega) (by omega) before
      have reached : start ≤ u := by omega
      have before := kept (start - 1) (by omega) (by omega)
      rcases Int.lt_or_eq_of_le reached with earlier | rfl
      · have := kept start (by omega) earlier
        omega
      · omega

/-- Where the clock is changed at most once around midnight and the instants from the start of the
day on are those that read midnight or later, it clears midnight. -/
theorem clears_midnight (once : ChangesOnce z day)
    (starts : ∀ t, day * dayLength ≤ z.reading t ↔ zonedDayStart z day ≤ t) : ClearsMidnight z day := by
  have hstart := zonedDayStart_eq z day
  have hguess : firstGuess z day = day * dayLength - z.offset (day * dayLength) := rfl
  have hhour : hourLength = 3600000 := rfl
  unfold ChangesOnce at once
  have earlier : ∀ t, z.reading (t - 1) = z.unchanged t - 1 := by
    intro t
    rw [LocalClock.reading, LocalClock.unchanged]
    omega
  have unchanged : ∀ t, z.unchanged t = t + z.offset (t - 1) := fun _ => rfl
  have reading : ∀ t, z.reading t = t + z.offset t := fun _ => rfl
  generalize firstGuess z day = guess at *
  generalize zonedDayStart z day = start at *
  generalize hmidnight : day * dayLength = midnight at *
  -- The offset at the first guess is that of midnight UTC, or the one change lies between them.
  have cases : z.offset midnight = z.offset guess ∨ ∃ u, z.Changes u ∧
      (midnight < u ∧ u ≤ guess ∧ z.offset guess = z.offset u ∨
        guess < u ∧ u ≤ midnight ∧ z.offset guess = z.offset (u - 1) ∧
          z.offset midnight = z.offset u) ∧
      guess - hourLength ≤ start ∧ start ≤ guess + hourLength := by
    rcases le_total midnight guess with behind | ahead
    · rcases once.offset_cases (by omega) behind (by omega) with
        same | ⟨u, after, upTo, changes, isOffset, isGuess⟩
      · exact .inl same
      · have := z.change_le' u
        exact .inr ⟨u, changes, .inl ⟨after, upTo, isGuess⟩, by omega, by omega⟩
    · rcases once.offset_cases (by omega) ahead (by omega) with
        same | ⟨u, after, upTo, changes, isGuess, isOffset⟩
      · exact .inl same.symm
      · have := z.change_le' u
        exact .inr ⟨u, changes, .inr ⟨after, upTo, isGuess, isOffset⟩, by omega, by omega⟩
  have changes_of : ∀ t, z.unchanged t ≠ z.reading t → z.Changes t := by
    intro t differ same
    rw [unchanged, reading, same] at differ
    exact differ rfl
  refine ⟨?_, ?_, ?_, ?_⟩ <;> rw [hmidnight]
  · rintro t ⟨low, high⟩
    have at_start : start = t := by
      have := starts t
      have := starts (t - 1)
      have := earlier t
      omega
    subst at_start
    have changes := changes_of start (by omega)
    rw [unchanged] at low
    rw [reading] at high
    rcases cases with same | ⟨u, changes', between, near, near'⟩
    · rw [show start = guess by omega] at high
      omega
    · have := once start u changes changes' (by omega) (by omega) (by omega) (by omega)
      subst this
      omega
  · rintro t ⟨low, high⟩
    have := starts t
    have := starts (t - 1)
    have := earlier t
    omega
  · intro t at_midnight high
    by_contra late
    have at_start : start = t := by
      have := starts t
      have := starts (t - 1)
      have := earlier t
      omega
    subst at_start
    have changes := changes_of start (by omega)
    rw [unchanged] at at_midnight
    rw [reading] at high
    rcases cases with same | ⟨u, changes', between, near, near'⟩
    · rw [show start = guess by omega] at high
      omega
    · have := once start u changes changes' (by omega) (by omega) (by omega) (by omega)
      subst this
      omega
  · intro t at_midnight high
    by_contra early
    have before : start ≤ t - 1 := by
      have := starts (t - 1)
      have := earlier t
      omega
    have changes := changes_of t (by omega)
    rw [reading] at at_midnight
    rcases cases with same | ⟨u, changes', between, near, near'⟩
    · have := once.offset_after changes (t := midnight) (by omega) (by omega) (by omega)
      omega
    · have := once t u changes changes' (by omega) (by omega) (by omega) (by omega)
      subst this
      omega

theorem daysTile_iff (z : TimeZone) : DaysTile z ↔
    ∀ day t, day * dayLength ≤ z.reading t ↔ zonedDayStart z day ≤ t := by
  have hday : dayLength = 86400000 := rfl
  have hhour : hourLength = 3600000 := rfl
  constructor
  · intro tiles day t
    have ordered : ∀ e, zonedDayStart z e < zonedDayStart z (e + 1) := by
      intro e
      obtain ⟨⟨first, -⟩, -, within⟩ := tiles e
      exact ((within _).mpr first).2
    have increasing : StrictMono (zonedDayStart z) := strictMono_int_of_lt_succ ordered
    obtain ⟨-, -, within⟩ := tiles (todayInTimezone z t)
    obtain ⟨from_start, before_next⟩ := (within t).mpr rfl
    rw [todayInTimezone] at from_start before_next
    rw [zonedNextDayStart] at before_next
    rw [← Int.le_ediv_iff_mul_le (show 0 < dayLength by omega)]
    constructor
    · intro later
      exact (increasing.monotone later).trans from_start
    · intro later
      by_contra earlier
      have := increasing.monotone (show z.reading t / dayLength + 1 ≤ day by omega)
      omega
  · intro passes day
    have within : ∀ t, zonedDayStart z day ≤ t ∧ t < zonedNextDayStart z day ↔
        todayInTimezone z t = day := by
      intro t
      have this_day := passes day t
      have next_day := passes (day + 1) t
      rw [hday] at this_day next_day
      rw [zonedNextDayStart, todayInTimezone, hday]
      constructor
      · rintro ⟨from_start, before_next⟩
        omega
      · intro today
        omega
    refine ⟨⟨?_, fun t today => ((within t).mpr today).1⟩, rfl, within⟩
    -- The clock reads less than an hour past midnight at the first instant of the day.
    have start := passes day (zonedDayStart z day)
    have before := passes day (zonedDayStart z day - 1)
    have change := z.change_le' (zonedDayStart z day)
    rw [LocalClock.reading, hday] at start before
    change todayInTimezone z (zonedDayStart z day) = day
    rw [todayInTimezone, LocalClock.reading, hday]
    omega

end

/-! ### Zones with summer time -/

/-- The offset of a zone that is an hour ahead of its winter time from spring to autumn. -/
def summerOffset (winter spring autumn t : ℤ) : ℤ :=
  if spring ≤ t ∧ t < autumn then winter + hourLength else winter

theorem summerOffset_change_le (winter spring autumn t : ℤ) :
    |summerOffset winter spring autumn (t + 1) - summerOffset winter spring autumn t| ≤ hourLength := by
  have hhour : hourLength = 3600000 := rfl
  rw [abs_le]
  simp only [summerOffset]
  split <;> split <;> omega

def summerTime (winter spring autumn : ℤ) : TimeZone :=
  ⟨summerOffset winter spring autumn, summerOffset_change_le winter spring autumn⟩

theorem summerTime_offset (winter spring autumn t : ℤ) :
    (summerTime winter spring autumn).offset t =
      if spring ≤ t ∧ t < autumn then winter + hourLength else winter := rfl

theorem summerTime_changes {winter spring autumn t : ℤ}
    (changes : (summerTime winter spring autumn).Changes t) : t = spring ∨ t = autumn := by
  by_contra neither
  apply changes
  rw [summerTime_offset, summerTime_offset]
  split <;> split <;> omega

/-- The change to summer time of 2026 in Europe, at one o'clock UTC. -/
def spring2026 : ℤ := Gregorian.date 2026 3 29 * dayLength + hourLength

def autumn2026 : ℤ := Gregorian.date 2026 10 25 * dayLength + hourLength

theorem spring2026_eq : spring2026 = 1774746000000 := by decide

theorem autumn2026_eq : autumn2026 = 1792890000000 := by decide

def madrid : TimeZone := summerTime hourLength spring2026 autumn2026

def azores : TimeZone := summerTime (-hourLength) spring2026 autumn2026

theorem madrid_changesOnce (day : ℤ) : ChangesOnce madrid day := by
  have hspring := spring2026_eq
  have hautumn := autumn2026_eq
  have hhour : hourLength = 3600000 := rfl
  have hguess : firstGuess madrid day = day * dayLength -
      if spring2026 ≤ day * dayLength ∧ day * dayLength < autumn2026 then hourLength + hourLength else hourLength := rfl
  intro t t' changes changes' lo hi lo' hi'
  have at_change := summerTime_changes changes
  have at_change' := summerTime_changes changes'
  split at hguess <;> omega

theorem madrid_clearsMidnight (day : ℤ) : ClearsMidnight madrid day := by
  have hspring := spring2026_eq
  have hautumn := autumn2026_eq
  have hhour : hourLength = 3600000 := rfl
  have hday : dayLength = 86400000 := rfl
  constructor <;> intro t <;>
    simp only [LocalClock.unchanged, LocalClock.reading, madrid, summerTime_offset, hspring, hautumn,
      hhour, hday] <;>
    split <;> split <;> omega

theorem azores_oneChangeADay : OneChangeADay azores := by
  intro t t' changes changes' same
  rcases summerTime_changes changes with rfl | rfl <;>
    rcases summerTime_changes changes' with rfl | rfl
  · rfl
  · revert same
    decide
  · revert same
    decide
  · rfl

end StorageOS
