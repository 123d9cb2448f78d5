import StorageOS.Billing.FirstMonth
import StorageOS.Billing.Months
import Mathlib.Logic.Function.Iterate
import StorageOS.Users.Owners

/-! The due dates of business reminders: the next one of a recurrence of some months, and the dates of
the fiscal calendar, moved to Monday from a weekend. Years have four digits. -/

namespace StorageOS

open Gregorian

/-! ### Months -/

def daysInMonth (y m : ℤ) : ℤ := monthLength (12 * y + m - 1)

def addMonthsToDate (d : Date) (months : ℤ) : Date :=
  let total := year d * 12 + (month d - 1) + months
  let ny := total / 12
  let nm := total % 12 + 1
  Gregorian.date ny nm (min (day d) (daysInMonth ny nm))

inductive BusinessReminderRecurrence
  | none
  | monthly
  | quarterly
  | semiannual
  | yearly
  | custom
  deriving DecidableEq

def recurrenceMonths (recurrence : BusinessReminderRecurrence) (intervalMonths : Option ℤ) : Option ℤ :=
  match recurrence with
  | .monthly => some 1
  | .quarterly => some 3
  | .semiannual => some 6
  | .yearly => some 12
  | .custom => intervalMonths.filter fun months => 0 < months
  | .none => none

def nextReminderDueDate (dueDate : Date) (recurrence : BusinessReminderRecurrence)
    (intervalMonths : Option ℤ) : Option Date :=
  (recurrenceMonths recurrence intervalMonths).map fun months => addMonthsToDate dueDate months

theorem addMonthsToDate_eq_onDay (d : Date) (months : ℤ) :
    addMonthsToDate d months = Gregorian.onDay (monthOf d + months) (day d) := by
  have total : year d * 12 + (month d - 1) + months = monthOf d + months := by
    simp only [year, month]
    omega
  have place : 12 * ((monthOf d + months) / 12) + ((monthOf d + months) % 12 + 1) - 1 =
      monthOf d + months := by omega
  rw [addMonthsToDate, total, daysInMonth, Gregorian.date, place, Gregorian.onDay]

theorem monthOf_addMonthsToDate (d : Date) (months : ℤ) :
    monthOf (addMonthsToDate d months) = monthOf d + months := by
  rw [addMonthsToDate_eq_onDay, monthOf_onDay (day_pos d)]

theorem day_addMonthsToDate (d : Date) (months : ℤ) :
    day (addMonthsToDate d months) = min (day d) (monthLength (monthOf d + months)) := by
  rw [addMonthsToDate_eq_onDay, day_onDay (day_pos d)]

theorem recurrenceMonths_pos {recurrence : BusinessReminderRecurrence} {intervalMonths : Option ℤ} {m : ℤ}
    (repeats : recurrenceMonths recurrence intervalMonths = some m) : 0 < m := by
  cases recurrence with
  | none => cases repeats
  | monthly | quarterly | semiannual | yearly =>
    cases repeats
    decide
  | custom =>
    rw [recurrenceMonths, Option.filter_eq_some_iff] at repeats
    simpa using repeats.2

/-! ### Repetitions -/

section

variable {d : Date} {m : ℤ} {k : ℕ}

/-- The due date after `k` repetitions, each counted from the one before. -/
def repeated (d : Date) (m : ℤ) (k : ℕ) : Date := (fun d => addMonthsToDate d m)^[k] d

@[simp] theorem repeated_zero : repeated d m 0 = d := rfl

theorem repeated_succ : repeated d m (k + 1) = addMonthsToDate (repeated d m k) m :=
  Function.iterate_succ_apply' _ _ _

theorem monthOf_repeated : monthOf (repeated d m k) = monthOf d + k * m := by
  induction k with
  | zero => simp
  | succ k ih =>
    rw [repeated_succ, monthOf_addMonthsToDate, ih]
    push_cast
    ring

theorem le_day_repeated_iff {n : ℤ} : n ≤ day (repeated d m k) ↔
    n ≤ day d ∧ ∀ j ≤ k, n ≤ monthLength (monthOf d + j * m) := by
  induction k with
  | zero =>
    simp only [repeated_zero, Nat.le_zero, forall_eq, Nat.cast_zero, zero_mul, add_zero]
    exact ⟨fun h => ⟨h, h.trans (day_le d)⟩, fun h => h.1⟩
  | succ k ih =>
    have month : monthOf (repeated d m k) + m = monthOf d + (k + 1 : ℕ) * m := by
      rw [monthOf_repeated]
      push_cast
      ring
    rw [repeated_succ, day_addMonthsToDate, month, le_min_iff, ih]
    constructor
    · rintro ⟨⟨own, before⟩, last⟩
      refine ⟨own, fun j le => ?_⟩
      rcases Nat.le_succ_iff.mp le with earlier | rfl
      · exact before j earlier
      · exact last
    · rintro ⟨own, all⟩
      exact ⟨⟨own, fun j le => all j (Nat.le_succ_of_le le)⟩, all _ le_rfl⟩

/-- The day of the first date is kept, or is the last of a shorter month, exactly when the months on
the way are long enough for it. -/
theorem repeated_eq_iff : repeated d m k = Gregorian.onDay (monthOf d + k * m) (day d) ↔
    ∀ j < k, min (day d) (monthLength (monthOf d + k * m)) ≤ monthLength (monthOf d + j * m) := by
  have within := le_day_repeated_iff (d := d) (m := m) (k := k) (n := day (repeated d m k)).mp le_rfl
  have last := within.2 k le_rfl
  have most : day (repeated d m k) ≤ min (day d) (monthLength (monthOf d + k * m)) :=
    le_min within.1 last
  have same : repeated d m k = Gregorian.onDay (monthOf d + k * m) (day d) ↔
      min (day d) (monthLength (monthOf d + k * m)) ≤ day (repeated d m k) := by
    constructor
    · intro equal
      rw [equal, day_onDay (day_pos d)]
    · intro least
      rw [← onDay_day (repeated d m k), monthOf_repeated, Gregorian.onDay, Gregorian.onDay, le_antisymm most least]
      have long := day_le (repeated d m k)
      rw [monthOf_repeated] at long
      lia
  rw [same, le_day_repeated_iff]
  constructor
  · rintro ⟨-, all⟩ j lt
    exact all j lt.le
  · intro all
    refine ⟨min_le_left _ _, fun j le => ?_⟩
    rcases Nat.lt_or_eq_of_le le with lt | rfl
    · exact all j lt
    · exact min_le_right _ _

theorem lt_addMonthsToDate (h : 0 < m) : d < addMonthsToDate d m := by
  have later : monthOf d < monthOf (addMonthsToDate d m) := by
    rw [monthOf_addMonthsToDate]
    omega
  by_contra early
  have := monthOf_mono (not_lt.mp early)
  omega

end

/-! ### The fiscal calendar -/

def shiftWeekend (d : Date) : Date :=
  let dow := getUTCDay d
  if dow = 6 then d + 2 else if dow = 0 then d + 1 else d

def fiscalDateIn (month day : ℕ) (year : ℤ) : Date :=
  shiftWeekend (Gregorian.date year month (min day (daysInMonth year month)))

theorem shiftWeekend_bounds (d : Date) : d ≤ shiftWeekend d ∧ shiftWeekend d ≤ d + 2 := by
  unfold shiftWeekend
  dsimp only
  split_ifs <;> constructor <;> lia

theorem monthStart_add_twelve (k : ℤ) : monthStart k + 365 ≤ monthStart (k + 12) := by
  have year : (k + 12 - 2) / 12 = (k - 2) / 12 + 1 := by omega
  have month : (k + 12 - 2) % 12 = (k - 2) % 12 := by omega
  simp only [monthStart]
  rw [year, month]
  omega

theorem fiscalDateIn_bounds (month day : ℕ) (year : ℤ) :
    monthStart (12 * year + month - 1) + min (day : ℤ) 28 - 1 ≤ fiscalDateIn month day year ∧
      fiscalDateIn month day year ≤ monthStart (12 * year + month - 1) + min (day : ℤ) 31 + 1 := by
  have bounds := shiftWeekend_bounds (Gregorian.date year month (min day (daysInMonth year month)))
  have long := monthLength_bounds (12 * year + month - 1)
  rw [Gregorian.date] at bounds
  rw [fiscalDateIn, Gregorian.date]
  unfold daysInMonth at *
  lia

theorem fiscalDateIn_lt (month day : ℕ) (year : ℤ) :
    fiscalDateIn month day year < fiscalDateIn month day (year + 1) := by
  have this_ := fiscalDateIn_bounds month day year
  have next := fiscalDateIn_bounds month day (year + 1)
  have later := monthStart_add_twelve (12 * year + month - 1)
  have index : 12 * year + month - 1 + 12 = 12 * (year + 1) + month - 1 := by omega
  rw [index] at later
  lia

/-- The first of the dates from a year on that is not before a date. -/
def fiscalDateFrom (month day : ℕ) (from_ : Date) (year : ℤ) : Date :=
  if fiscalDateIn month day year < from_ then fiscalDateFrom month day from_ (year + 1)
  else fiscalDateIn month day year
termination_by (from_ - fiscalDateIn month day year).toNat
decreasing_by
  have := fiscalDateIn_lt month day year
  lia

def fiscalDateOnOrAfter (month day : ℕ) (from_ : Date) : Date := fiscalDateFrom month day from_ (year from_)

/-- Where a reminder comes from: a date of a fiscal template, `fiscal_303:4-20`, or something else. -/
inductive TemplateKey
  | fiscal (base : String) (month day : ℕ)
  | other (key : String)
  deriving DecidableEq

def fiscalNextDueDate (templateKey : Option TemplateKey) (after : Date) : Option Date :=
  match templateKey with
  | some (.fiscal _ month day) => some (fiscalDateOnOrAfter month day (after + 1))
  | _ => none

def fiscalOccurrences : List (String × ℕ × ℕ) :=
  [("fiscal_303", 4, 20), ("fiscal_303", 7, 20), ("fiscal_303", 10, 20), ("fiscal_303", 1, 30),
    ("fiscal_111", 4, 20), ("fiscal_111", 7, 20), ("fiscal_111", 10, 20), ("fiscal_111", 1, 20),
    ("fiscal_115", 4, 20), ("fiscal_115", 7, 20), ("fiscal_115", 10, 20), ("fiscal_115", 1, 20),
    ("fiscal_130", 4, 20), ("fiscal_130", 7, 20), ("fiscal_130", 10, 20), ("fiscal_130", 1, 20),
    ("fiscal_202", 4, 20), ("fiscal_202", 10, 20), ("fiscal_202", 12, 20), ("fiscal_390", 1, 30),
    ("fiscal_180_190", 1, 31), ("fiscal_347", 2, 28), ("fiscal_200", 7, 25), ("fiscal_accounts", 7, 30)]

section

variable {month day : ℕ} {year : ℤ}

/-- A day of the calendar from which a weekend does not lead to the next year. -/
def inYear (month day : ℕ) : Prop := 1 ≤ month ∧ month ≤ 12 ∧ 1 ≤ day ∧ (month = 12 → day ≤ 28)

theorem inYear_of_occurrence {base : String} (mem : (base, month, day) ∈ fiscalOccurrences) : inYear month day := by
  have all : ∀ o ∈ fiscalOccurrences, 1 ≤ o.2.1 ∧ o.2.1 ≤ 12 ∧ 1 ≤ o.2.2 ∧ (o.2.1 = 12 → o.2.2 ≤ 28) := by decide
  exact all _ mem

theorem year_eq_iff {d : Date} : Gregorian.year d = year ↔
    monthStart (12 * year) ≤ d ∧ d < monthStart (12 * (year + 1)) := by
  rw [← le_monthOf_iff, ← not_le, ← le_monthOf_iff, Gregorian.year]
  omega

theorem year_fiscalDateIn (fits : inYear month day) {n : ℤ} (near_ : 0 ≤ n ∧ n ≤ 1) :
    Gregorian.year (fiscalDateIn month day year + n) = year := by
  obtain ⟨january, december, some_, early⟩ := fits
  have bounds := fiscalDateIn_bounds month day year
  have mono : ∀ {j k : ℤ}, j ≤ k → monthStart j ≤ monthStart k := fun {j k} le =>
    not_lt.mp fun lt => absurd (monthStart_lt_iff.mp lt) (not_lt.mpr le)
  have first : monthStart (12 * year) ≤ monthStart (12 * year + month - 1) := mono (by omega)
  rw [year_eq_iff]
  refine ⟨by lia, ?_⟩
  by_cases last : month = 12
  · subst last
    have index : 12 * year + (12 : ℕ) - 1 + 1 = 12 * (year + 1) := by omega
    have length : monthStart (12 * year + (12 : ℕ) - 1) + 31 = monthStart (12 * (year + 1)) := by
      simp only [monthStart]
      omega
    have := early rfl
    lia
  · have one := monthStart_succ (12 * year + month - 1)
    have two := monthStart_succ (12 * year + month - 1 + 1)
    have before : monthStart (12 * year + month - 1 + 1 + 1) ≤ monthStart (12 * (year + 1)) := mono (by omega)
    lia

theorem fiscalNextDueDate_fiscalDateIn (fits : inYear month day) (base : String) :
    fiscalNextDueDate (some (.fiscal base month day)) (fiscalDateIn month day year) =
      some (fiscalDateIn month day (year + 1)) := by
  have this_ : Gregorian.year (fiscalDateIn month day year + 1) = year := year_fiscalDateIn fits (by omega)
  have later := fiscalDateIn_lt month day year
  rw [fiscalNextDueDate, fiscalDateOnOrAfter, this_, fiscalDateFrom, if_pos (by lia), fiscalDateFrom,
    if_neg (by lia)]

def MovedToMonday (official d : Date) : Prop :=
  (1 ≤ getUTCDay official ∧ getUTCDay official ≤ 5 → d = official) ∧
    (getUTCDay official = 6 ∨ getUTCDay official = 0 → getUTCDay d = 1 ∧ official < d ∧ d ≤ official + 2)

theorem movedToMonday_shiftWeekend (d : Date) : MovedToMonday d (shiftWeekend d) := by
  unfold MovedToMonday shiftWeekend getUTCDay
  dsimp only
  split_ifs <;> lia

theorem fiscalDateIn_occurrence {base : String} (mem : (base, month, day) ∈ fiscalOccurrences) :
    fiscalDateIn month day year = shiftWeekend (Gregorian.date year month day) := by
  have all : ∀ o ∈ fiscalOccurrences, o.2.2 ≤ 28 ∨ o.2.2 ≤ 31 ∧ (o.2.1 = 1 ∨ o.2.1 = 7) := by decide
  have short : (day : ℤ) ≤ daysInMonth year month := by
    have long := monthLength_bounds (12 * year + month - 1)
    rcases all _ mem with early | ⟨late, rfl | rfl⟩
    · rw [daysInMonth]
      lia
    · have : daysInMonth year (1 : ℕ) = 31 := by
        simp only [daysInMonth, monthLength, monthStart]
        omega
      rw [this]
      exact_mod_cast late
    · have : daysInMonth year (7 : ℕ) = 31 := by
        simp only [daysInMonth, monthLength, monthStart]
        omega
      rw [this]
      exact_mod_cast late
  rw [fiscalDateIn, min_eq_left short]

end

/-! `BusinessRemindersService.complete`: a due date is done, by any number of people at once. The
reminder is read, the expense is registered in a transaction of its own, and the completion is
recorded in another if the due date is still the one that was read. -/

open Transition Processes

abbrev ReminderId := ℕ
abbrev ExpenseId := ℕ

inductive BusinessReminderCategory
  | domain
  | hosting
  | rent
  | taxes
  | insurance
  | license
  | inspection
  | utilities
  | supplier
  | subscription
  | other
  deriving DecidableEq

inductive ExpenseCategory
  | other
  | rent
  | taxes
  | insurance
  | maintenance
  | utilities
  | supplies
  deriving DecidableEq

def businessReminderExpenseCategory : BusinessReminderCategory → ExpenseCategory
  | .domain | .hosting | .subscription | .other => .other
  | .rent => .rent
  | .taxes | .license => .taxes
  | .insurance => .insurance
  | .inspection => .maintenance
  | .utilities => .utilities
  | .supplier => .supplies

inductive ReminderStatus
  | active
  | paused
  | done
  deriving DecidableEq

structure BusinessReminder where
  facilityId : Option FacilityId
  title : String
  category : BusinessReminderCategory
  dueDate : Date
  recurrence : BusinessReminderRecurrence
  intervalMonths : Option ℤ
  amount : Option ℤ
  vendor : Option String
  templateKey : Option TemplateKey
  status : ReminderStatus
  snoozedUntil : Option Date

structure Expense where
  facilityId : Option FacilityId
  category : ExpenseCategory
  description : String
  amount : ℤ
  expenseDate : Date
  vendor : String
  notes : String

structure ReminderCompletion where
  reminderId : ReminderId
  dueDate : Date
  completedByUserId : Option UserId
  note : Option String
  amount : Option ℤ
  expenseId : Option ExpenseId
  receiptKey : Option String
  receiptName : Option String
  receiptMime : Option String

/-- The reminders of a tenant, their completions from the first, and the expenses registered with them. -/
structure ReminderDb where
  tenantId : String
  reminders : Table ReminderId BusinessReminder
  completions : List ReminderCompletion
  expenses : Table ExpenseId Expense

structure CompleteBusinessReminderInput where
  note : Option String
  amount : Option ℤ
  registerExpense : Bool
  receiptKey : Option String
  receiptName : Option String
  receiptMime : Option String

structure ReminderRequest where
  userId : Option UserId
  id : ReminderId
  /-- The facilities of the user. -/
  scope : FacilityId → Bool
  input : CompleteBusinessReminderInput

inductive ReminderCall
  | finding (request : ReminderRequest)
  | expensing (request : ReminderRequest) (current : BusinessReminder)
  | claiming (request : ReminderRequest) (current : BusinessReminder) (expenseId : Option ExpenseId)

inductive ReminderInput
  -- `stored`: the receipt is in the storage, of an admitted type and size.
  | proceed (today : Date) (stored : Bool)
  | fail

def emptyToNull (text : Option String) : Option String := text.filter fun text => text ≠ ""

def paidAmount (input : CompleteBusinessReminderInput) (current : BusinessReminder) : Option ℤ :=
  input.amount.or current.amount

def receiptFolder (tenantId : String) (id : ReminderId) : String :=
  tenantId ++ "/reminders/" ++ toString id ++ "/"

def nextDue (current : BusinessReminder) (dueDate : Date) : Option Date :=
  (fiscalNextDueDate current.templateKey dueDate).or
    (nextReminderDueDate dueDate current.recurrence current.intervalMonths)

def BusinessReminder.claimed (next : Option Date) (r : BusinessReminder) : BusinessReminder :=
  match next with
  | some dueDate => { r with dueDate, snoozedUntil := none }
  | none => { r with status := .done, snoozedUntil := none }

def newCompletion (request : ReminderRequest) (current : BusinessReminder) (expenseId : Option ExpenseId) :
    ReminderCompletion where
  reminderId := request.id
  dueDate := current.dueDate
  completedByUserId := request.userId
  note := emptyToNull request.input.note
  amount := paidAmount request.input current
  expenseId := expenseId
  receiptKey := request.input.receiptKey
  receiptName := request.input.receiptKey.map fun _ => request.input.receiptName.getD "Justificante"
  receiptMime := request.input.receiptKey.bind fun _ => request.input.receiptMime

def newExpense (request : ReminderRequest) (current : BusinessReminder) (amount : ℤ) (today : Date) :
    Expense where
  facilityId := current.facilityId
  category := businessReminderExpenseCategory current.category
  description := current.title
  amount := amount
  expenseDate := today
  vendor := current.vendor.getD ""
  notes := request.input.note.getD ""

/-- `updateMany` of the reminder where it is not done and has the due date that was read, with the
completion. -/
def ReminderDb.record (db : ReminderDb) (request : ReminderRequest) (current : BusinessReminder)
    (expenseId : Option ExpenseId) : Option ReminderDb :=
  (db.reminders.find request.id).bind fun row =>
    if row.status ≠ .done ∧ row.dueDate = current.dueDate then
      some { db with
        reminders := db.reminders.modify request.id
          (BusinessReminder.claimed (nextDue current current.dueDate))
        completions := db.completions ++ [newCompletion request current expenseId] }
    else none

def ReminderRequest.admits (request : ReminderRequest) (tenantId : String) (current : BusinessReminder)
    (stored : Bool) : Bool :=
  (current.facilityId.all request.scope) && current.status ≠ .done &&
    request.input.receiptKey.all fun key =>
      (receiptFolder tenantId request.id).toList.isPrefixOf key.toList && stored

def nextReminder (db : ReminderDb) : ReminderCall → ReminderInput → Option (ReminderDb × Option ReminderCall)
  | _, .fail => some (db, none)
  | .finding request, .proceed _ stored =>
    match db.reminders.find request.id with
    | none => some (db, none)
    | some current =>
      if request.admits db.tenantId current stored then
        if request.input.registerExpense && (paidAmount request.input current).any (0 < ·) then
          some (db, some (.expensing request current))
        else some (db, some (.claiming request current none))
      else some (db, none)
  | .expensing request current, .proceed today _ =>
    some ({ db with
      expenses := db.expenses.push
        (newExpense request current ((paidAmount request.input current).getD 0) today) },
      some (.claiming request current (some db.expenses.nextKey)))
  | .claiming request current expenseId, .proceed _ _ =>
    match db.record request current expenseId with
    | none => some (db, none)
    | some recorded => some (recorded, none)

def reminderSystem : System ReminderDb ReminderCall ReminderRequest ReminderInput where
  enter _ request := some (.finding request)
  next := nextReminder

/-- A request that has registered an expense neither fails nor finds the due date done by another. -/
def keepsExpense (db : ReminderDb) : ReminderCall → ReminderInput → Prop
  | .claiming request current (some _), .proceed _ _ =>
    ∃ row ∈ db.reminders.find request.id, row.status ≠ .done ∧ row.dueDate = current.dueDate
  | .claiming _ _ (some _), .fail => False
  | _, _ => True

instance decidableKeepsExpense (db : ReminderDb) :
    (r : ReminderCall) → (input : ReminderInput) → Decidable (keepsExpense db r input)
  | .claiming request current (some _), .proceed _ _ => inferInstanceAs
    (Decidable (∃ row ∈ db.reminders.find request.id, row.status ≠ .done ∧ row.dueDate = current.dueDate))
  | .claiming _ _ (some _), .fail => inferInstanceAs (Decidable False)
  | .claiming _ _ none, .proceed _ _ | .claiming _ _ none, .fail => inferInstanceAs (Decidable True)
  | .finding _, .proceed _ _ | .finding _, .fail => inferInstanceAs (Decidable True)
  | .expensing _ _, .proceed _ _ | .expensing _ _, .fail => inferInstanceAs (Decidable True)

end StorageOS
