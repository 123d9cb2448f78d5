import StorageOS.Reminders.Completions

/-! The due date of a reminder over any interleaving of completions: each completion takes it on by one repetition and
is recorded once, and an expense belongs to a completion. -/

namespace StorageOS

open Gregorian Transition Processes

variable {db db' : ReminderDb} {r : ReminderCall} {input : ReminderInput} {rest : Option ReminderCall}
  {id : ReminderId} {reminder current row : BusinessReminder}

/-! ### What a statement does -/

inductive ReminderMove (db : ReminderDb) : ReminderCall → ReminderDb → Option ReminderCall → Prop
  | ends {r : ReminderCall} : ReminderMove db r db none
  | readsToPay {request : ReminderRequest} {current : BusinessReminder}
    (found : db.reminders.find request.id = some current) :
    ReminderMove db (.finding request) db (some (.expensing request current))
  | reads {request : ReminderRequest} {current : BusinessReminder}
    (found : db.reminders.find request.id = some current) :
    ReminderMove db (.finding request) db (some (.claiming request current none))
  | registers {request : ReminderRequest} {current : BusinessReminder} {expense : Expense} :
    ReminderMove db (.expensing request current) { db with expenses := db.expenses.push expense }
      (some (.claiming request current (some db.expenses.nextKey)))
  | completes {request : ReminderRequest} {current : BusinessReminder} {expenseId : Option ExpenseId}
    {recorded : ReminderDb} (records : db.record request current expenseId = some recorded) :
    ReminderMove db (.claiming request current expenseId) recorded none

theorem nextReminder_move (h : nextReminder db r input = some (db', rest)) : ReminderMove db r db' rest := by
  cases input with
  | fail =>
    rw [nextReminder] at h
    cases h
    exact .ends
  | proceed today stored =>
    cases r with
    | finding request =>
      rw [nextReminder] at h
      split at h
      · cases h
        exact .ends
      · rename_i current found
        split_ifs at h
        · cases h
          exact .readsToPay found
        · cases h
          exact .reads found
        · cases h
          exact .ends
    | expensing request current =>
      cases h
      exact .registers
    | claiming request current expenseId =>
      rw [nextReminder] at h
      split at h <;> cases h
      · exact .ends
      · rename_i recorded records
        exact .completes records

theorem record_cases {request : ReminderRequest} {expenseId : Option ExpenseId}
    (records : db.record request current expenseId = some db') :
    ∃ row, db.reminders.find request.id = some row ∧ row.status ≠ .done ∧ row.dueDate = current.dueDate ∧
      db' = { db with
        reminders := db.reminders.modify request.id
          (BusinessReminder.claimed (nextDue current current.dueDate))
        completions := db.completions ++ [newCompletion request current expenseId] } := by
  simp only [ReminderDb.record, Option.bind_eq_some_iff] at records
  obtain ⟨row, found, made⟩ := records
  split_ifs at made with fits
  cases made
  exact ⟨row, found, fits.1, fits.2, rfl⟩

/-! ### The visited dates -/

structure BusinessReminder.SameTerms (r r' : BusinessReminder) : Prop where
  recurrence : r'.recurrence = r.recurrence
  intervalMonths : r'.intervalMonths = r.intervalMonths
  templateKey : r'.templateKey = r.templateKey

theorem BusinessReminder.SameTerms.nextDue (same : reminder.SameTerms current) (d : Date) :
    nextDue current d = StorageOS.nextDue reminder d := by
  rw [StorageOS.nextDue, StorageOS.nextDue, same.recurrence, same.intervalMonths, same.templateKey]

theorem claimed_sameTerms (same : reminder.SameTerms row) (next : Option Date) :
    reminder.SameTerms (row.claimed next) := by
  cases next <;> exact ⟨same.recurrence, same.intervalMonths, same.templateKey⟩

def BusinessReminder.position (r : BusinessReminder) : Option Date :=
  if r.status = .done then none else some r.dueDate

theorem position_claimed (open_ : row.status ≠ .done) (next : Option Date) :
    (row.claimed next).position = next := by
  cases next with
  | none => rfl
  | some d => exact if_neg open_

/-- From the first due date, the dates done so far lead to the next one. -/
inductive Visits (next : Date → Option Date) (first : Date) : List Date → Option Date → Prop
  | start : Visits next first [] (some first)
  | done {dates : List Date} {d : Date} (before : Visits next first dates (some d)) :
    Visits next first (dates ++ [d]) (next d)

/-- The due dates of a reminder that have been recorded, from the first. -/
def ReminderDb.doneDates (db : ReminderDb) (id : ReminderId) : List Date :=
  (db.completions.filter fun c => c.reminderId = id).map ReminderCompletion.dueDate

def ReminderDb.Follows (db : ReminderDb) (id : ReminderId) (reminder : BusinessReminder) : Prop :=
  ∃ r, db.reminders.find id = some r ∧ reminder.SameTerms r ∧
    Visits (nextDue reminder) reminder.dueDate (db.doneDates id) r.position

def ReminderCall.Sound (id : ReminderId) (reminder : BusinessReminder) : ReminderCall → Prop
  | .finding _ => True
  | .expensing request current | .claiming request current _ => request.id = id → reminder.SameTerms current

theorem ReminderMove.sound {r' : ReminderCall} (move : ReminderMove db r db' (some r'))
    (follows : db.Follows id reminder) (sound : r.Sound id reminder) : r'.Sound id reminder := by
  obtain ⟨stored, has, same, -⟩ := follows
  cases move with
  | readsToPay found | reads found =>
    rintro rfl
    rw [has] at found
    cases found
    exact same
  | registers => exact sound

theorem ReminderMove.follows (move : ReminderMove db r db' rest) (sound : r.Sound id reminder)
    (follows : db.Follows id reminder) : db'.Follows id reminder := by
  cases move with
  | ends | readsToPay | reads | registers => exact follows
  | @completes request current expenseId _ records =>
    obtain ⟨row, found, open_, due, rfl⟩ := record_cases records
    obtain ⟨stored, has, same, visits⟩ := follows
    by_cases own : request.id = id
    · subst own
      rw [has] at found
      cases found
      refine ⟨row.claimed (nextDue current current.dueDate), ?_, claimed_sameTerms same _, ?_⟩
      · rw [Table.find_modify_self, has]
        rfl
      · have here : row.position = some current.dueDate := by
          rw [BusinessReminder.position, if_neg open_, due]
        have dates : ReminderDb.doneDates { db with
            reminders := db.reminders.modify request.id
              (BusinessReminder.claimed (nextDue current current.dueDate))
            completions := db.completions ++ [newCompletion request current expenseId] } request.id =
            db.doneDates request.id ++ [current.dueDate] := by
          simp [ReminderDb.doneDates, newCompletion]
        rw [position_claimed open_, dates, (sound rfl).nextDue]
        rw [here] at visits
        exact visits.done
    · refine ⟨stored, ?_, same, ?_⟩
      · rw [Table.find_modify_ne _ (Ne.symm own), has]
      · have dates : ReminderDb.doneDates { db with
            reminders := db.reminders.modify request.id
              (BusinessReminder.claimed (nextDue current current.dueDate))
            completions := db.completions ++ [newCompletion request current expenseId] } id =
            db.doneDates id := by
          simp [ReminderDb.doneDates, newCompletion, own]
        rw [dates]
        exact visits

section

variable {s t : State ReminderDb ReminderCall}

structure RemindersQuiet (s : State ReminderDb ReminderCall) : Prop where
  running : s.running = []
  completions : s.db.completions = []
  expenses : s.db.expenses = Table.empty

theorem follows_of_run (quiet : RemindersQuiet s) (found : s.db.reminders.find id = some reminder)
    (open_ : reminder.status ≠ .done) (run : Reaches reminderSystem.step s t) : t.db.Follows id reminder := by
  refine (System.invariant (P := fun db => db.Follows id reminder) (Q := fun _ r => r.Sound id reminder)
    (System.admitted run) ?_ ?_ ?_ ?_).1
  · refine ⟨reminder, found, ⟨rfl, rfl, rfl⟩, ?_⟩
    rw [BusinessReminder.position, if_neg open_, ReminderDb.doneDates, quiet.completions]
    exact .start
  · intro r mem
    rw [quiet.running] at mem
    cases mem
  · intro db request r _ entered
    cases entered
    trivial
  · intro db r input db' rest follows sound _ made
    have move := nextReminder_move made
    refine ⟨move.follows sound follows, ?_, fun _ other => other⟩
    rintro r' rfl
    exact move.sound follows sound

end

/-! ### Dates that increase -/

section

variable {next : Date → Option Date} {first : Date} {dates : List Date} {d : Option Date}

theorem Visits.increasing (visits : Visits next first dates d)
    (later : ∀ d d', next d = some d' → d < d') :
    dates.Pairwise (· < ·) ∧ ∀ e ∈ dates, ∀ d' ∈ d, e < d' := by
  induction visits with
  | start => exact ⟨.nil, nofun⟩
  | @done dates d before ih =>
    obtain ⟨ordered, below⟩ := ih
    refine ⟨?_, fun e mem d' has => ?_⟩
    · refine List.pairwise_append.mpr ⟨ordered, List.pairwise_singleton _ _, fun e mem f single => ?_⟩
      rw [List.mem_singleton.mp single]
      exact below e mem d rfl
    · have after := later d d' has
      rcases List.mem_append.mp mem with mem | mem
      · exact (below e mem d rfl).trans after
      · rw [List.mem_singleton.mp mem]
        exact after

theorem Visits.eq_range (date : ℕ → Date) (visits : Visits next (date 0) dates d)
    (steps : ∀ k, next (date k) = some (date (k + 1))) :
    dates = (List.range dates.length).map date ∧ d = some (date dates.length) := by
  induction visits with
  | start => exact ⟨rfl, rfl⟩
  | @done dates d before ih =>
    obtain ⟨all, here⟩ := ih
    rw [Option.some.injEq] at here
    subst here
    refine ⟨?_, ?_⟩
    · rw [List.length_append, List.length_singleton, List.range_succ, List.map_append, ← all]
      rfl
    · rw [List.length_append, List.length_singleton]
      exact steps _

end

theorem fiscalDateFrom_ge (month day : ℕ) (from_ : Date) (year : ℤ) :
    from_ ≤ fiscalDateFrom month day from_ year := by
  fun_induction fiscalDateFrom month day from_ year with
  | case1 year early ih => exact ih
  | case2 year reached => exact not_lt.mp reached

theorem lt_nextDue {d d' : Date} (next : nextDue reminder d = some d') : d < d' := by
  unfold nextDue at next
  rcases Option.or_eq_some_iff.mp next with fiscal | ⟨-, repeats⟩
  · unfold fiscalNextDueDate at fiscal
    split at fiscal
    · rename_i _ base month day key
      cases fiscal
      have := fiscalDateFrom_ge month day (d + 1) (Gregorian.year (d + 1))
      unfold fiscalDateOnOrAfter
      lia
    · cases fiscal
  · simp only [nextReminderDueDate, Option.map_eq_some_iff] at repeats
    obtain ⟨m, months, rfl⟩ := repeats
    exact lt_addMonthsToDate (recurrenceMonths_pos months)


theorem fiscalDateFrom_eq (month day : ℕ) (from_ : Date) (year : ℤ) :
    ∃ y, fiscalDateFrom month day from_ year = fiscalDateIn month day y := by
  fun_induction fiscalDateFrom month day from_ year with
  | case1 year early ih => exact ih
  | case2 year reached => exact ⟨year, rfl⟩

/-! ### The expenses -/

/-- The expense that a request has registered for the completion to come. -/
def ReminderCall.held : ReminderCall → Option ExpenseId
  | .finding _ | .expensing _ _ => none
  | .claiming _ _ expenseId => expenseId

def ReminderDb.expenseIds (db : ReminderDb) : List ExpenseId := db.expenses.rows.map Prod.fst

def ReminderDb.recordedIds (db : ReminderDb) : List ExpenseId :=
  db.completions.filterMap ReminderCompletion.expenseId

/-- What a statement adds to the expenses is what it adds to those recorded or held. -/
theorem nextReminder_counts (made : nextReminder db r input = some (db', rest))
    (keeps : keepsExpense db r input) (e : ExpenseId) :
    db'.expenseIds.count e + db.recordedIds.count e + r.held.toList.count e =
      db.expenseIds.count e + db'.recordedIds.count e + (rest.bind ReminderCall.held).toList.count e := by
  cases r with
  | finding request =>
    have same : db' = db ∧ rest.bind ReminderCall.held = none := by
      cases nextReminder_move made <;> exact ⟨rfl, rfl⟩
    rw [same.1, same.2]
    rfl
  | expensing request current =>
    cases input with
    | fail =>
      cases made
      rfl
    | proceed today stored =>
      cases made
      simp [ReminderDb.expenseIds, ReminderDb.recordedIds, ReminderCall.held, List.count_append]
      omega
  | claiming request current expenseId =>
    cases input with
    | fail =>
      cases made
      cases expenseId with
      | none => rfl
      | some expenseId => exact absurd keeps id
    | proceed today stored =>
      rw [nextReminder] at made
      split at made
      · rename_i lost
        cases made
        cases expenseId with
        | none => rfl
        | some expenseId =>
          obtain ⟨row, found, fits⟩ := keeps
          rw [ReminderDb.record, found, Option.bind_some, if_pos fits] at lost
          cases lost
      · rename_i recorded records
        cases made
        obtain ⟨row, -, -, -, rfl⟩ := record_cases records
        cases expenseId <;> simp [ReminderDb.expenseIds, ReminderDb.recordedIds, ReminderCall.held,
          newCompletion, List.count_append, Nat.add_assoc]

/-- Each expense is registered with one completion, or by a request that is yet to record its own. -/
def ExpensesAccounted (s : State ReminderDb ReminderCall) : Prop :=
  s.db.expenseIds.Perm (s.db.recordedIds ++ s.running.filterMap ReminderCall.held)

section

variable {s t : State ReminderDb ReminderCall}

theorem accounted_of_run (quiet : RemindersQuiet s)
    (run : Run reminderSystem.step (System.admits keepsExpense) s t) : ExpensesAccounted t := by
  unfold ExpensesAccounted
  rw [List.perm_iff_count]
  refine (System.invariant_with (P := fun _ => True) (Q := fun _ _ => True)
    (J := fun x => ∀ e, x.db.expenseIds.count e =
      (x.db.recordedIds ++ x.running.filterMap ReminderCall.held).count e)
    run trivial (fun _ _ => trivial) ?_ (fun _ _ => trivial)
    (fun _ _ _ _ => ⟨trivial, fun _ _ => trivial, fun _ _ => trivial⟩) ?_ ?_).2.2
  · intro e
    rw [ReminderDb.expenseIds, quiet.expenses, ReminderDb.recordedIds, quiet.completions, quiet.running]
    rfl
  · intro db running request r _ before entered e
    cases entered
    have holds : [ReminderCall.finding request].filterMap ReminderCall.held = [] := rfl
    rw [List.filterMap_append, holds, List.append_nil]
    exact before e
  · intro db running i r input db' rest _ _ before keeps found made e
    have moved := (filterMap_resume ReminderCall.held found rest).count_eq e
    have counts := nextReminder_counts made keeps e
    have here := before e
    simp only [List.count_append] at moved here ⊢
    omega

end

/-! ### The dates and expenses of every run -/

/-- The reminder after its completions, each recorded once and in order. -/
structure ReminderDb.KeepsDates (db : ReminderDb) (id : ReminderId) (reminder : BusinessReminder) : Prop where
  once : (db.doneDates id).Pairwise (· < ·)
  -- The months on the way are long enough for the day of the first date exactly when it is kept.
  months : (∀ base month day, reminder.templateKey ≠ some (.fiscal base month day)) →
    ∀ m, recurrenceMonths reminder.recurrence reminder.intervalMonths = some m →
      let k := (db.doneDates id).length
      db.doneDates id = (List.range k).map (repeated reminder.dueDate m) ∧
        ∃ r, db.reminders.find id = some r ∧ r.status ≠ .done ∧
          (r.dueDate = addMonthsToDate reminder.dueDate (k * m) ↔
            ∀ j < k, min (day reminder.dueDate) (monthLength (monthOf reminder.dueDate + k * m)) ≤
              monthLength (monthOf reminder.dueDate + j * m))
  fiscal : ∀ base month day today, reminder.templateKey = some (.fiscal base month day) →
    (base, month, day) ∈ fiscalOccurrences → reminder.dueDate = fiscalDateOnOrAfter month day today →
      let k := (db.doneDates id).length
      ∃ first : ℤ, db.doneDates id = (List.range k).map (fun j : ℕ => fiscalDateIn month day (first + j)) ∧
        ∃ r, db.reminders.find id = some r ∧ r.status ≠ .done ∧
          r.dueDate = fiscalDateIn month day (first + k)

section

variable {s t : State ReminderDb ReminderCall}

theorem position_eq_some {r : BusinessReminder} {d : Date} (here : r.position = some d) :
    r.status ≠ .done ∧ r.dueDate = d := by
  unfold BusinessReminder.position at here
  split_ifs at here with done
  exact ⟨done, Option.some.inj here⟩

theorem ReminderDb.Follows.keepsDates (follows : db.Follows id reminder) : db.KeepsDates id reminder := by
  obtain ⟨r, found, -, visits⟩ := follows
  refine ⟨(visits.increasing fun d d' next => lt_nextDue next).1, fun plain m repeats => ?_,
    fun base month day today key mem due => ?_⟩
  · have steps : ∀ k, nextDue reminder (repeated reminder.dueDate m k) =
        some (repeated reminder.dueDate m (k + 1)) := by
      intro k
      have none_ : fiscalNextDueDate reminder.templateKey (repeated reminder.dueDate m k) = none := by
        unfold fiscalNextDueDate
        split
        · rename_i base month day key
          exact absurd key (plain base month day)
        · rfl
      rw [nextDue, none_, Option.none_or, nextReminderDueDate, repeats, Option.map_some, repeated_succ]
    obtain ⟨all, here⟩ := Visits.eq_range (repeated reminder.dueDate m) visits steps
    obtain ⟨open_, due⟩ := position_eq_some here
    refine ⟨all, r, found, open_, ?_⟩
    rw [due, addMonthsToDate_eq_onDay]
    exact repeated_eq_iff
  · obtain ⟨first, same⟩ := fiscalDateFrom_eq month day today (Gregorian.year today)
    have start : reminder.dueDate = fiscalDateIn month day (first + (0 : ℕ)) := by
      rw [due, Nat.cast_zero, add_zero]
      exact same
    have steps : ∀ k : ℕ, nextDue reminder (fiscalDateIn month day (first + k)) =
        some (fiscalDateIn month day (first + (k + 1 : ℕ))) := by
      intro k
      rw [nextDue, key, fiscalNextDueDate_fiscalDateIn (inYear_of_occurrence mem), Option.some_or,
        Nat.cast_add, Nat.cast_one, add_assoc]
    rw [start] at visits
    obtain ⟨all, here⟩ := Visits.eq_range (fun k : ℕ => fiscalDateIn month day (first + k)) visits steps
    obtain ⟨open_, due'⟩ := position_eq_some here
    exact ⟨first, all, r, found, open_, due'⟩

/-- In every run a reminder is at the next of its dates, and the day of the first is kept as long as no month on the
way is too short. A date of the fiscal calendar is its official day or the Monday after, once a year. Each expense is
one of a completion while no request loses its reminder. -/
theorem reminders_keep_dates (quiet : RemindersQuiet s) :
    (∀ t, Reaches reminderSystem.step s t → ∀ id reminder, s.db.reminders.find id = some reminder →
      reminder.status ≠ .done → t.db.KeepsDates id reminder) ∧
    (∀ base month day, (base, month, day) ∈ fiscalOccurrences → ∀ y,
      Gregorian.year (fiscalDateIn month day y) = y ∧
        MovedToMonday (Gregorian.date y month day) (fiscalDateIn month day y)) ∧
    ∀ t, Run reminderSystem.step (System.admits keepsExpense) s t → ExpensesAccounted t ∧
      (t.running = [] → t.db.expenses.rows.length ≤ t.db.completions.length) := by
  refine ⟨fun t run id reminder found open_ => (follows_of_run quiet found open_ run).keepsDates,
    fun base month day mem y => ⟨?_, ?_⟩, fun t run => ?_⟩
  · have same : Gregorian.year (fiscalDateIn month day y + 0) = y :=
      year_fiscalDateIn (inYear_of_occurrence mem) (by omega)
    rwa [add_zero] at same
  · rw [fiscalDateIn_occurrence mem]
    exact movedToMonday_shiftWeekend _
  · have accounted := accounted_of_run quiet run
    refine ⟨accounted, fun ended => ?_⟩
    have lengths := accounted.length_eq
    rw [ended, List.filterMap_nil, List.append_nil, ReminderDb.expenseIds, List.length_map] at lengths
    rw [lengths]
    exact List.length_filterMap_le _ _

end

/-- The rent of the premises, 50 € on the last day of January and every month after. -/
def rentReminder : BusinessReminder where
  facilityId := none
  title := "Alquiler"
  category := .rent
  dueDate := Gregorian.date 2026 1 31
  recurrence := .monthly
  intervalMonths := none
  amount := some 5000
  vendor := none
  templateKey := none
  status := .active
  snoozedUntil := none

def rentBook : State ReminderDb ReminderCall :=
  ⟨⟨"t1", Table.empty.push rentReminder, [], .empty⟩, []⟩

def paysRent : ReminderRequest where
  userId := some 1
  id := 0
  scope := fun _ => true
  input := ⟨none, none, true, none, none, none⟩

theorem rentBook_quiet : RemindersQuiet rentBook := ⟨rfl, rfl, rfl⟩

/-- Two payments, one after the other. -/
theorem reminders_keep_dates_rent : ∃ t : State ReminderDb ReminderCall,
    t.db.completions.length = 2 ∧ t.db.KeepsDates 0 rentReminder ∧ ExpensesAccounted t := by
  obtain ⟨t, run, twice⟩ := Run.exists_of_exec reminderSystem.step (System.admits keepsExpense) rentBook
    ([.start paysRent] ++ List.replicate 3 (.advance 0 (.proceed (Gregorian.date 2026 1 31) true)) ++
      [.start paysRent] ++ List.replicate 3 (.advance 0 (.proceed (Gregorian.date 2026 3 2) true)))
    (fun t => t.db.completions.length = 2) (by decide +kernel)
  have kept := reminders_keep_dates rentBook_quiet
  exact ⟨t, by simpa using twice, kept.1 t (run.mono fun _ _ _ => trivial) 0 rentReminder rfl (by decide),
    (kept.2.2 t run).1⟩

/-- The rent of the last day of January is due on 28 March after two payments; and two people who pay it
at once register two expenses, one of which is of no completion. -/
theorem reminders_drift :
    (¬∀ (s t : State ReminderDb ReminderCall) (id : ReminderId) (reminder r : BusinessReminder) (m : ℤ),
      RemindersQuiet s → Reaches reminderSystem.step s t → s.db.reminders.find id = some reminder →
      reminder.status ≠ .done → reminder.templateKey = none →
      recurrenceMonths reminder.recurrence reminder.intervalMonths = some m →
      t.db.reminders.find id = some r →
      r.dueDate = addMonthsToDate reminder.dueDate ((t.db.doneDates id).length * m)) ∧
    ¬∀ s t : State ReminderDb ReminderCall, RemindersQuiet s → Reaches reminderSystem.step s t →
      t.running = [] → t.db.expenses.rows.length ≤ t.db.completions.length := by
  constructor
  · intro always
    obtain ⟨t, run, twice⟩ := Run.exists_of_exec reminderSystem.step (fun _ _ => True) rentBook
      ([.start paysRent] ++ List.replicate 3 (.advance 0 (.proceed (Gregorian.date 2026 1 31) true)) ++
        [.start paysRent] ++ List.replicate 3 (.advance 0 (.proceed (Gregorian.date 2026 3 2) true)))
      (fun t => (t.db.reminders.find 0).any (fun r => r.dueDate = Gregorian.date 2026 3 28) &&
        (t.db.doneDates 0).length = 2) (by decide +kernel)
    obtain ⟨here, two⟩ := Bool.and_eq_true_iff.mp twice
    obtain ⟨r, found, due⟩ := (Option.any_eq_true _ _).mp here
    have kept := always rentBook t 0 rentReminder r 1 rentBook_quiet run rfl (by decide) rfl rfl found
    rw [of_decide_eq_true due, of_decide_eq_true two] at kept
    exact absurd kept (by decide)
  · intro always
    obtain ⟨t, run, lost⟩ := Run.exists_of_exec reminderSystem.step (fun _ _ => True) rentBook
      ([.start paysRent, .start paysRent] ++
        List.replicate 2 (.advance 0 (.proceed (Gregorian.date 2026 1 31) true)) ++
        List.replicate 2 (.advance 1 (.proceed (Gregorian.date 2026 1 31) true)) ++
        List.replicate 2 (.advance 0 (.proceed (Gregorian.date 2026 1 31) true)))
      (fun t => t.running.isEmpty && t.db.expenses.rows.length = 2 && t.db.completions.length = 1)
      (by decide +kernel)
    simp only [Bool.and_eq_true, List.isEmpty_iff, decide_eq_true_eq] at lost
    have most := always rentBook t rentBook_quiet run lost.1.1
    omega

end StorageOS
