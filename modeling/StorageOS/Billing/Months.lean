import StorageOS.Billing.Recurring

/-! Months added to a date, in the two ways the application does it: a day that the month does not
have becomes the last day of the month, or runs into the next month. -/

namespace StorageOS

open Gregorian

theorem addMonths_eq_onDay (d : Date) (months : ℤ) :
    addMonths d months = onDay (monthOf d + months) (day d) := rfl

@[simp] theorem monthOf_addMonths (d : Date) (months : ℤ) :
    monthOf (addMonths d months) = monthOf d + months :=
  monthOf_onDay (day_pos d)

theorem day_addMonths (d : Date) (months : ℤ) :
    day (addMonths d months) = min (day d) (monthLength (monthOf d + months)) :=
  day_onDay (day_pos d)

@[simp] theorem addMonths_zero (d : Date) : addMonths d 0 = d := by
  rw [addMonths_eq_onDay, add_zero, onDay_day]

theorem addMonths_lt_iff {d : Date} {j k : ℤ} : addMonths d j < addMonths d k ↔ j < k := by
  rw [addMonths_eq_onDay, addMonths_eq_onDay, onDay_lt_iff (day_pos d)]
  omega

theorem lt_addMonths (d : Date) {months : ℤ} (h : 0 < months) : d < addMonths d months := by
  have := addMonths_lt_iff (d := d).mpr h
  rwa [addMonths_zero] at this

theorem BillingJobs.addMonths_eq (d : Date) (months : ℤ) :
    BillingJobs.addMonths d months =
      StorageOS.addMonths d months + max 0 (day d - monthLength (monthOf d + months)) := by
  rw [addMonths_eq_onDay, BillingJobs.addMonths, onDay]
  lia

theorem BillingJobs.lt_addMonths (d : Date) {months : ℤ} (h : 0 < months) :
    d < BillingJobs.addMonths d months := by
  have := StorageOS.lt_addMonths d h
  rw [BillingJobs.addMonths_eq]
  lia

end StorageOS
