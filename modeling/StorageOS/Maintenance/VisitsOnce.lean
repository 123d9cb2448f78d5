import StorageOS.Maintenance.Plans

/-! Each visit of a maintenance plan is generated once, on a date of its schedule, as long as nothing
moves the plan while it is generated and a new schedule does not start on a date that has a task. -/

namespace StorageOS

open Transition Processes

variable {db db' : MaintenanceDb} {call : MaintenanceCall} {rest : Option MaintenanceCall} {now : ℕ}

def MaintenanceCall.Plain : MaintenanceCall → Prop
  | .saving .. | .writing .. => False
  | .creating _ | .editing .. | .selecting | .checking .. | .generating .. | .reading ..
  | .deletingFacility _ | .restoringFacility .. => True

inductive MaintenanceMove (db : MaintenanceDb) (now : ℕ) :
    MaintenanceCall → MaintenanceDb → Option MaintenanceCall → Prop
  | passes {call : MaintenanceCall} {rest : Option MaintenanceCall}
      (plain : ∀ r, rest = some r → r.Plain) : MaintenanceMove db now call db rest
  | creates (input : CreateMaintenancePlanInput) : MaintenanceMove db now (.creating input)
      { db with plans := db.plans.push (createPlan input now) } none
  | edits {id : MaintenancePlanId} {input : UpdateMaintenancePlanInput} {scope : MaintenanceScope}
      {current : MaintenancePlan} {data : PlanChanges} (found : db.plans.find id = some current)
      (changes : planChanges input current now = some data) :
    MaintenanceMove db now (.editing id input scope) db (some (.saving id data))
  | saves (id : MaintenancePlanId) (data : PlanChanges) :
    MaintenanceMove db now (.saving id data)
      { db with plans := db.plans.modify id data.apply } none
  | reads {id : MaintenancePlanId} {today : Date} {ids : List MaintenancePlanId}
      {plan : MaintenancePlan} (found : db.plans.find id = some plan)
      (due : plan.nextRunDate ≤ today) :
    MaintenanceMove db now (.reading id today ids) db (some (.writing id plan today ids))
  | generates {id : MaintenancePlanId} {plan stored : MaintenancePlan} {today : Date}
      {ids : List MaintenancePlanId} (found : db.plans.find id = some stored) :
    MaintenanceMove db now (.writing id plan today ids) (db.generate id plan stored today now)
      (generateNext ids)
  | pauses {call : MaintenanceCall} (chosen : MaintenancePlanId × MaintenancePlan → Bool)
      (active : Bool) (facilities : List MaintenanceFacilityId) :
    MaintenanceMove db now call
      { db with
        plans := db.plans.updateMany chosen fun p => { p with isActive := active }
        deletedFacilities := facilities } none

theorem generateNext_plain (ids : List MaintenancePlanId) :
    ∀ r, generateNext ids = some r → r.Plain := by
  intro r same
  cases ids with
  | nil => cases same
  | cons id rest =>
    cases same
    trivial

theorem stepMaintenance_move (db : MaintenanceDb) (now : ℕ) (call : MaintenanceCall) :
    MaintenanceMove db now call (stepMaintenance db now call).1 (stepMaintenance db now call).2 := by
  cases call with
  | creating input => exact .creates input
  | editing id input scope =>
    rw [stepMaintenance]
    split
    · exact .passes goesOn_none
    · rename_i current found
      split
      · exact .passes goesOn_none
      · cases changes : planChanges input current now with
        | none => exact .passes goesOn_none
        | some data => exact .edits found changes
  | saving id data => exact .saves id data
  | selecting => exact .passes (generateNext_plain _)
  | checking id scope =>
    rw [stepMaintenance]
    split
    · exact .passes goesOn_none
    · split
      · refine .passes fun r same => ?_
        cases same
        trivial
      · exact .passes goesOn_none
  | generating id ids =>
    refine .passes fun r same => ?_
    cases same
    trivial
  | reading id today ids =>
    rw [stepMaintenance]
    split
    · exact .passes (generateNext_plain ids)
    · rename_i plan found
      split
      · exact .passes (generateNext_plain ids)
      · rename_i due
        simp only [Bool.or_eq_true, Bool.not_eq_true', decide_eq_true_eq, not_or, not_lt] at due
        exact .reads found due.2
  | writing id plan today ids =>
    rw [stepMaintenance]
    split
    · exact .passes (generateNext_plain ids)
    · rename_i stored found
      exact .generates found
  | deletingFacility f => exact .pauses _ false _
  | restoringFacility f ids => exact .pauses _ true _

theorem nextMaintenance_move {input : MaintenanceInput}
    (h : nextMaintenance db call input = some (db', rest)) :
    (∃ now, input = .proceed now ∧ MaintenanceMove db now call db' rest) ∨
      db' = db ∧ ∀ r, rest = some r → r.Plain := by
  cases input with
  | proceed now =>
    have move := stepMaintenance_move db now call
    rw [nextMaintenance, Option.some.injEq] at h
    rw [h] at move
    exact .inl ⟨now, rfl, move⟩
  | fail =>
    cases h
    refine .inr ⟨rfl, ?_⟩
    cases call with
    | generating id ids | reading id today ids | writing id plan today ids =>
      exact generateNext_plain ids
    | _ =>
      exact goesOn_none

/-! ### Dates of plans -/

theorem year_today (now : ℕ) : 0 ≤ Gregorian.year (maintenanceToday now) := by
  have modern : Gregorian.year 0 = 1970 := by decide
  have later : (0 : ℤ) ≤ maintenanceToday now :=
    Int.ediv_nonneg (Int.natCast_nonneg now) (by decide)
  have := Gregorian.year_mono later
  omega

theorem year_toDateOnly (startDate : Option StartDate) (now : ℕ) :
    0 ≤ Gregorian.year (toDateOnly startDate now) := by
  cases startDate with
  | none => exact year_today now
  | some d => exact d.2

structure Visit (spec : RecurrenceSpec) (start next : Date) : Prop where
  dated : Dated next
  scheduled : spec.Scheduled start next

theorem firstOccurrence_visit {spec : RecurrenceSpec} (valid : spec.Valid) {d : Date}
    (h : 0 ≤ Gregorian.year d) : Visit spec (dateOnlyUtc d) (firstOccurrence spec d) := by
  obtain ⟨scheduled, later⟩ := firstOccurrence_scheduled valid h
  exact ⟨(dated_dateOnlyUtc h).later later, scheduled⟩

def MaintenanceCall.Sound : MaintenanceCall → Prop
  | .saving _ data => ∀ s, data.schedule = some s → Visit s.spec s.scheduledFrom s.nextRunDate
  | .writing _ plan _ _ => Dated plan.nextRunDate
  | .creating _ | .editing .. | .selecting | .checking .. | .generating .. | .reading ..
  | .deletingFacility _ | .restoringFacility .. => True

theorem MaintenanceCall.Plain.sound (plain : call.Plain) : call.Sound := by
  cases call with
  | saving | writing => cases plain
  | _ => trivial

theorem planChanges_visit {input : UpdateMaintenancePlanInput} {current : MaintenancePlan}
    {data : PlanChanges} (h : planChanges input current now = some data) {s : ScheduleChange}
    (change : data.schedule = some s) : Visit s.spec s.scheduledFrom s.nextRunDate := by
  unfold planChanges at h
  split at h
  · dsimp only at h
    split at h
    · cases h
    · split at h
      · cases h
      · rename_i weekly monthly
        cases h
        cases change
        exact firstOccurrence_visit ⟨fun w e => weekly ⟨w, e⟩, fun m e => monthly ⟨m, e⟩⟩
          (year_toDateOnly _ now)
  · cases h
    cases change

def MaintenanceDb.Dated (db : MaintenanceDb) : Prop :=
  ∀ id p, db.plans.find id = some p → StorageOS.Dated p.nextRunDate

theorem MaintenanceMove.sound {call' : MaintenanceCall}
    (move : MaintenanceMove db now call db' (some call')) (dated : db.Dated) : call'.Sound := by
  generalize next : some call' = rest at move
  cases move with
  | passes plain => exact (plain call' next.symm).sound
  | creates | saves | pauses => cases next
  | edits found changes =>
    cases next
    exact fun s change => planChanges_visit changes change
  | reads found due =>
    cases next
    exact dated _ _ found
  | generates => exact (generateNext_plain _ call' next.symm).sound

/-- One of the 1001 dates that follow the visit of a plan is after a day. -/
def MaintenancePlan.keepsUp (plan : MaintenancePlan) (today : Date) : Bool :=
  (List.range (catchUpGuard + 1)).any fun n =>
    today < (nextOccurrence plan.spec)^[n + 1] plan.nextRunDate

section

variable {plan : MaintenancePlan} (dated : StorageOS.Dated plan.nextRunDate) (today : Date)

include dated

theorem caughtUp_later : plan.nextRunDate < plan.caughtUp today := by
  have later := lt_nextOccurrence plan.spec dated plan.valid
  exact later.trans_le (le_catchUp plan.valid (dated.later later.le) today catchUpGuard)

theorem caughtUp_visit {spec : RecurrenceSpec} {start : Date} (same : spec = plan.spec)
    (scheduled : spec.Scheduled start plan.nextRunDate) : Visit spec start (plan.caughtUp today) := by
  subst same
  have later := lt_nextOccurrence plan.spec dated plan.valid
  exact ⟨dated.later (caughtUp_later dated today).le, catchUp_scheduled plan.valid
    (dated.later later.le) today catchUpGuard
    (nextOccurrence_scheduled _ dated plan.valid scheduled)⟩

/-- A generation moves its plan past its day exactly when few enough dates are to be passed. -/
theorem lt_caughtUp_iff : today < plan.caughtUp today ↔ plan.keepsUp today = true := by
  have later := lt_nextOccurrence plan.spec dated plan.valid
  have last := lt_catchUp_iff plan.valid (dated.later later.le) today catchUpGuard
  rw [← Function.iterate_succ_apply] at last
  rw [MaintenancePlan.caughtUp, last, MaintenancePlan.keepsUp, List.any_eq_true]
  constructor
  · exact fun reached => ⟨catchUpGuard, List.mem_range.mpr catchUpGuard.lt_succ_self,
      decide_eq_true reached⟩
  · rintro ⟨n, listed, reached⟩
    have passed := iterate_mono plan.valid dated (Nat.succ_le_of_lt (List.mem_range.mp listed))
    exact (of_decide_eq_true reached).trans_le passed

end

theorem createPlan_visit (input : CreateMaintenancePlanInput) (now : ℕ) :
    Visit (createPlan input now).spec (createPlan input now).scheduledFrom
      (createPlan input now).nextRunDate :=
  firstOccurrence_visit input.valid (year_toDateOnly input.startDate now)

theorem apply_cases (data : PlanChanges) (p : MaintenancePlan) :
    ((data.apply p).spec = p.spec ∧ (data.apply p).scheduledFrom = p.scheduledFrom ∧
      (data.apply p).nextRunDate = p.nextRunDate) ∨
    ∃ s, data.schedule = some s ∧ (data.apply p).spec = s.spec ∧
      (data.apply p).scheduledFrom = s.scheduledFrom ∧ (data.apply p).nextRunDate = s.nextRunDate := by
  cases change : data.schedule with
  | none => exact .inl (by simp [PlanChanges.apply, change])
  | some s => exact .inr ⟨s, rfl, by simp [PlanChanges.apply, change]⟩

theorem find_paused {chosen : MaintenancePlanId × MaintenancePlan → Bool} {active : Bool}
    {k : MaintenancePlanId} {p' : MaintenancePlan}
    (found : (db.plans.updateMany chosen fun p => { p with isActive := active }).find k = some p') :
    ∃ p, db.plans.find k = some p ∧ p'.spec = p.spec ∧ p'.scheduledFrom = p.scheduledFrom ∧
      p'.nextRunDate = p.nextRunDate := by
  rw [Table.find_updateMany, Option.map_eq_some_iff] at found
  obtain ⟨p, before, rfl⟩ := found
  refine ⟨p, before, ?_⟩
  split <;> exact ⟨rfl, rfl, rfl⟩

variable (move : MaintenanceMove db now call db' rest)
include move

theorem MaintenanceMove.dated (dated : db.Dated) (sound : call.Sound) : db'.Dated := by
  cases move with
  | passes | edits | reads => exact dated
  | creates input =>
    intro k p found
    rw [Table.find_push] at found
    split at found
    · cases found
      exact (createPlan_visit input now).dated
    · exact dated k p found
  | saves id data =>
    intro k p' found
    rcases Table.find_modify_cases found with ⟨-, before⟩ | ⟨-, p, before, rfl⟩
    · exact dated k p' before
    · rcases apply_cases data p with ⟨-, -, same⟩ | ⟨s, change, -, -, same⟩
      · rw [same]
        exact dated id p before
      · rw [same]
        exact (sound s change).dated
  | @generates id plan stored today ids found =>
    intro k p' found'
    rcases Table.find_modify_cases found' with ⟨-, before⟩ | ⟨-, p, before, rfl⟩
    · exact dated k p' before
    · exact StorageOS.Dated.later sound (caughtUp_later sound today).le
  | pauses =>
    intro k p' found
    obtain ⟨p, before, -, -, same⟩ := find_paused found
    rw [same]
    exact dated k p before

/-! ### Progress -/

def catchesUp (_db : MaintenanceDb) : MaintenanceCall → MaintenanceInput → Bool
  | .writing _ plan today _, .proceed _ => plan.keepsUp today
  | _, _ => true

def MaintenanceDb.Progressed (db : MaintenanceDb) : Prop := ∀ task ∈ db.tasks, task.day < task.next

theorem MaintenanceMove.progressed (progressed : db.Progressed) (sound : call.Sound)
    (fits : catchesUp db call (.proceed now) = true) : db'.Progressed := by
  cases move with
  | @generates id plan stored today ids found =>
    intro task mem
    rcases List.mem_cons.mp mem with rfl | mem
    · exact (lt_caughtUp_iff sound today).mpr fits
    · exact progressed task mem
  | _ => exact progressed

/-! ### Visits -/

/-- The plan is as it was read, none of its tasks is due after the day of the generation and at most
1000 dates are passed; a new schedule does not start on the date of a task. -/
def generatesOnce (db : MaintenanceDb) : MaintenanceCall → MaintenanceInput → Bool
  | .writing id plan today _, .proceed _ =>
    ((db.plans.find id).all fun stored =>
      stored.spec = plan.spec && stored.nextRunDate = plan.nextRunDate) &&
    (db.tasks.all fun task => task.maintenancePlanId ≠ id || task.dueDate ≤ today) &&
    plan.keepsUp today
  | .saving id data, .proceed _ => data.schedule.all fun s =>
    db.tasks.all fun task => task.maintenancePlanId ≠ id || task.dueDate ≠ s.nextRunDate
  | _, _ => true

/-- Each plan has one task at most for a date, a date of the schedule that it had. -/
structure Visited (tasks : List MaintenanceTask) : Prop where
  once : (tasks.map fun task => (task.maintenancePlanId, task.dueDate)).Nodup
  scheduled : ∀ task ∈ tasks, task.spec.Scheduled task.scheduledFrom task.dueDate

structure MaintenanceDb.Visits (db : MaintenanceDb) : Prop where
  visited : Visited db.tasks
  known : ∀ task ∈ db.tasks, ∃ p, db.plans.find task.maintenancePlanId = some p
  next : ∀ id p, db.plans.find id = some p → Visit p.spec p.scheduledFrom p.nextRunDate
  fresh : ∀ id p, db.plans.find id = some p → ∀ task ∈ db.tasks, task.maintenancePlanId = id →
    task.dueDate ≠ p.nextRunDate

theorem MaintenanceMove.visits (visits : db.Visits) (sound : call.Sound)
    (fits : generatesOnce db call (.proceed now) = true) : db'.Visits := by
  obtain ⟨visited, known, next, fresh⟩ := visits
  cases move with
  | passes | edits | reads => exact ⟨visited, known, next, fresh⟩
  | creates input =>
    refine ⟨visited, fun task mem => ?_, fun k p found => ?_, fun k p found task mem of => ?_⟩
    · obtain ⟨p, found⟩ := known task mem
      exact ⟨p, Table.find_push_of_some found _⟩
    · rw [Table.find_push] at found
      split at found
      · cases found
        exact createPlan_visit input now
      · exact next k p found
    · rw [Table.find_push] at found
      split at found
      · rename_i new
        obtain ⟨p', there⟩ := known task mem
        rw [of, new, Table.find_nextKey] at there
        cases there
      · exact fresh k p found task mem of
  | saves id data =>
    refine ⟨visited, fun task mem => ?_, fun k p' found => ?_, fun k p' found task mem of => ?_⟩
    · obtain ⟨p, found⟩ := known task mem
      rw [Table.find_modify, found]
      split <;> exact ⟨_, rfl⟩
    · rcases Table.find_modify_cases found with ⟨-, before⟩ | ⟨-, p, before, rfl⟩
      · exact next k p' before
      · rcases apply_cases data p with ⟨spec, start, same⟩ | ⟨s, change, spec, start, same⟩
        · rw [spec, start, same]
          exact next id p before
        · rw [spec, start, same]
          exact sound s change
    · rcases Table.find_modify_cases found with ⟨-, before⟩ | ⟨rfl, p, before, rfl⟩
      · exact fresh k p' before task mem of
      · rcases apply_cases data p with ⟨-, -, same⟩ | ⟨s, change, -, -, same⟩
        · rw [same]
          exact fresh k p before task mem of
        · rw [same]
          rw [generatesOnce, change, Option.all_some] at fits
          have apart := List.all_eq_true.mp fits task mem
          simpa [of] using apart
  | @generates id plan stored today ids found =>
    obtain ⟨unmoved, reached⟩ := Bool.and_eq_true_iff.mp fits
    obtain ⟨same, notLater⟩ := Bool.and_eq_true_iff.mp unmoved
    rw [found, Option.all_some, Bool.and_eq_true, decide_eq_true_eq, decide_eq_true_eq] at same
    obtain ⟨spec, due⟩ := same
    have visit := next id stored found
    rw [due] at visit
    have later := (lt_caughtUp_iff sound today).mpr reached
    refine ⟨⟨?_, ?_⟩, fun task mem => ?_, fun k p' found' => ?_, fun k p' found' task mem of => ?_⟩
    · refine List.nodup_cons.mpr ⟨fun again => ?_, visited.once⟩
      obtain ⟨task, mem, pair⟩ := List.mem_map.mp again
      rw [Prod.mk.injEq] at pair
      exact fresh id stored found task mem pair.1 (pair.2.trans due.symm)
    · intro task mem
      rcases List.mem_cons.mp mem with rfl | mem
      · exact visit.scheduled
      · exact visited.scheduled task mem
    · rcases List.mem_cons.mp mem with rfl | mem
      · exact ⟨_, by rw [MaintenanceDb.generate, Table.find_modify_self, found]; rfl⟩
      · obtain ⟨p, there⟩ := known task mem
        rw [MaintenanceDb.generate, Table.find_modify, there]
        split <;> exact ⟨_, rfl⟩
    · rcases Table.find_modify_cases found' with ⟨-, before⟩ | ⟨-, p, before, rfl⟩
      · exact next k p' before
      · rw [found] at before
        cases before
        exact caughtUp_visit sound today spec visit.scheduled
    · rcases Table.find_modify_cases found' with ⟨other, before⟩ | ⟨rfl, p, before, rfl⟩
      · rcases List.mem_cons.mp mem with rfl | mem
        · exact absurd of.symm other
        · exact fresh k p' before task mem of
      · rcases List.mem_cons.mp mem with rfl | mem
        · exact (caughtUp_later sound today).ne
        · have early := List.all_eq_true.mp notLater task mem
          simp only [of, ne_eq, not_true_eq_false, decide_false, Bool.false_or,
            decide_eq_true_eq] at early
          exact (early.trans_lt later).ne
  | pauses =>
    refine ⟨visited, fun task mem => ?_, fun k p' found => ?_, fun k p' found task mem of => ?_⟩
    · obtain ⟨p, found⟩ := known task mem
      rw [Table.find_updateMany, found]
      exact ⟨_, rfl⟩
    · obtain ⟨p, before, spec, start, same⟩ := find_paused found
      rw [spec, start, same]
      exact next k p before
    · obtain ⟨p, before, -, -, same⟩ := find_paused found
      rw [same]
      exact fresh k p before task mem of

omit move

/-! ### Runs -/

theorem maintenance_invariant {P : MaintenanceDb → Prop}
    {ok : MaintenanceDb → MaintenanceCall → MaintenanceInput → Prop}
    {t : State MaintenanceDb MaintenanceCall}
    (run : Run maintenanceSystem.step (System.admits ok) ⟨.empty, []⟩ t) (start : P .empty)
    (next : ∀ {db now call db' rest}, P db → call.Sound → ok db call (.proceed now) →
      MaintenanceMove db now call db' rest → P db') : P t.db := by
  have all := System.invariant (P := fun db => db.Dated ∧ P db) (Q := fun _ call => call.Sound) run
    ⟨fun _ _ found => (by cases found), start⟩ (by simp)
    (fun {_ request _} _ entered => by
      cases request with
      | create input scope =>
        simp only [maintenanceSystem, enterMaintenance] at entered
        split at entered <;> cases entered
        trivial
      | generateFromPlan id scope => cases scope <;> cases entered <;> trivial
      | _ =>
        cases entered
        trivial)
    (fun kept sound fits made => by
      rcases nextMaintenance_move made with ⟨now, rfl, move⟩ | ⟨rfl, plain⟩
      · refine ⟨⟨move.dated kept.1 sound, next kept.2 sound fits move⟩, fun r same => ?_,
          fun _ other => other⟩
        subst same
        exact move.sound kept.1
      · exact ⟨kept, fun r same => (plain r same).sound, fun _ other => other⟩)
  exact all.1.2

theorem empty_visits : MaintenanceDb.empty.Visits :=
  ⟨⟨List.nodup_nil, by simp [MaintenanceDb.empty]⟩, by simp [MaintenanceDb.empty],
    fun _ _ found => (by cases found), fun _ _ found => (by cases found)⟩

/-- In every run in which the generations pass at most 1000 dates, each moves its plan past its
day. Where moreover nothing moves a plan while it is generated, each plan has one task at most for
a date, and it is one of its schedule. -/
theorem visits_once (t : State MaintenanceDb MaintenanceCall) :
    (Run maintenanceSystem.step
      (System.admits fun db call input => catchesUp db call input = true) ⟨.empty, []⟩ t →
      t.db.Progressed) ∧
    (Run maintenanceSystem.step
      (System.admits fun db call input => generatesOnce db call input = true) ⟨.empty, []⟩ t →
      Visited t.db.tasks) := by
  refine ⟨fun run => ?_, fun run => ?_⟩
  · exact maintenance_invariant run (by simp [MaintenanceDb.Progressed, MaintenanceDb.empty])
      (fun progressed sound fits move => move.progressed progressed sound fits)
  · exact (maintenance_invariant run empty_visits
      (fun visits sound fits move => move.visits visits sound fits)).visited

def thirdDays (startDate : Option StartDate) : CreateMaintenancePlanInput where
  spec := ⟨.daily, 3, [], none⟩
  valid := ⟨fun weekly => (by cases weekly), fun monthly => (by cases monthly)⟩
  facilityId := none
  startDate

def generateOn (day : ℕ) : List (Action MaintenanceRequest MaintenanceInput) :=
  .start (.generateFromPlan 0 none) ::
    List.replicate 3 (.advance 0 (.proceed (86400000 * day)))

def editOn (day : ℕ) (freq : Option MaintenanceFreq) (weekdays : Option (List Weekday)) :
    List (Action MaintenanceRequest MaintenanceInput) :=
  [.start (.update 0 ⟨freq, none, weekdays, none, none, none, none⟩ none)] ++
    List.replicate 2 (.advance 0 (.proceed (86400000 * day)))

/-- The plan is generated, changed to the Mondays and generated again a month later. -/
theorem visits_once_edited : ∃ t : State MaintenanceDb MaintenanceCall,
    t.db.tasks.map MaintenanceTask.dueDate = [20003, 20000] ∧ t.db.Progressed ∧
      Visited t.db.tasks := by
  obtain ⟨t, run, dates⟩ := Run.exists_of_exec maintenanceSystem.step
    (System.admits fun db call input => generatesOnce db call input = true) ⟨.empty, []⟩
    ([.start (.create (thirdDays none) none), .advance 0 (.proceed (86400000 * 20000))] ++
      generateOn 20000 ++ editOn 20001 (some .weekly) (some [1]) ++ generateOn 20030)
    (fun t => t.db.tasks.map MaintenanceTask.dueDate = [20003, 20000]) (by decide +kernel)
  refine ⟨t, of_decide_eq_true dates, (visits_once t).1 (System.admits_mono run ?_),
    (visits_once t).2 run⟩
  intro db call input fits
  cases call with
  | writing id plan today rest =>
    cases input with
    | proceed now => exact (Bool.and_eq_true_iff.mp fits).2
    | fail => rfl
  | _ => rfl

theorem year_2015 : 0 ≤ Gregorian.year 16436 := by decide

def neverSaves : MaintenanceCall → Bool
  | .saving .. => false
  | _ => true

/-- A plan is generated, edited on the same day and generated again; two generations read the same
visit; an edit changes the schedule of a plan that is being generated; and a plan that starts long ago
is left in the past. -/
theorem visits_repeat :
    (¬∀ t, Reaches maintenanceSystem.step ⟨.empty, []⟩ t →
      (t.db.tasks.map fun task => (task.maintenancePlanId, task.dueDate)).Nodup) ∧
    (¬∀ t, Run maintenanceSystem.step
      (System.admits fun _ call _ => neverSaves call = true) ⟨.empty, []⟩ t →
      (t.db.tasks.map fun task => (task.maintenancePlanId, task.dueDate)).Nodup) ∧
    (¬∀ t, Reaches maintenanceSystem.step ⟨.empty, []⟩ t →
      ∀ task ∈ t.db.tasks, task.spec.Scheduled task.scheduledFrom task.dueDate) ∧
    ¬∀ t, Reaches maintenanceSystem.step ⟨.empty, []⟩ t → t.db.Progressed := by
  refine ⟨fun always => ?_, fun always => ?_, fun always => ?_, fun always => ?_⟩
  · obtain ⟨t, run, twice⟩ := Run.exists_of_exec maintenanceSystem.step (fun _ _ => True)
      ⟨.empty, []⟩
      ([.start (.create (thirdDays none) none), .advance 0 (.proceed (86400000 * 20000))] ++
        generateOn 20000 ++ editOn 20000 none (some []) ++ generateOn 20000)
      (fun t => t.db.tasks.map (fun task => (task.maintenancePlanId, task.dueDate)) =
        [(0, 20000), (0, 20000)]) (by decide +kernel)
    have once := always t run
    rw [of_decide_eq_true twice] at once
    exact absurd once (by decide)
  · obtain ⟨t, run, twice⟩ := Run.exists_of_exec maintenanceSystem.step
      (System.admits fun _ call _ => neverSaves call = true) ⟨.empty, []⟩
      ([.start (.create (thirdDays none) none), .advance 0 (.proceed (86400000 * 20000)),
        .start (.generateFromPlan 0 none), .start .generateDue] ++
        ([0, 1, 0, 1, 1, 0, 0].map fun i => .advance i (.proceed (86400000 * 20000))))
      (fun t => t.db.tasks.map (fun task => (task.maintenancePlanId, task.dueDate)) =
        [(0, 20000), (0, 20000)]) (by decide +kernel)
    have once := always t run
    rw [of_decide_eq_true twice] at once
    exact absurd once (by decide)
  · obtain ⟨t, run, off⟩ := Run.exists_of_exec maintenanceSystem.step (fun _ _ => True)
      ⟨.empty, []⟩
      ([.start (.create (thirdDays none) none), .advance 0 (.proceed (86400000 * 20000))] ++
        (generateOn 20000).take 3 ++
        [.start (.update 0 ⟨some .weekly, none, some [1], none, none, none, none⟩ none),
          .advance 1 (.proceed (86400000 * 20000)), .advance 1 (.proceed (86400000 * 20000)),
          .advance 0 (.proceed (86400000 * 20000))])
      (fun t => t.db.tasks.any fun task => task.spec = ⟨.weekly, 3, [1], none⟩ &&
        task.dueDate = 20000) (by decide +kernel)
    obtain ⟨task, mem, shape⟩ := List.any_eq_true.mp off
    simp only [Bool.and_eq_true, decide_eq_true_eq] at shape
    have scheduled := always t run task mem
    rw [shape.1, shape.2] at scheduled
    exact absurd scheduled.2 (by decide)
  · obtain ⟨t, run, behind⟩ := Run.exists_of_exec maintenanceSystem.step (fun _ _ => True)
      ⟨.empty, []⟩
      ([.start (.create (thirdDays (some ⟨16436, year_2015⟩)) none),
        .advance 0 (.proceed (86400000 * 20000))] ++ generateOn 20000)
      (fun t => t.db.tasks.any fun task => task.next ≤ task.day) (by decide +kernel)
    obtain ⟨task, mem, late⟩ := List.any_eq_true.mp behind
    exact absurd (always t run task mem) (not_lt.mpr (of_decide_eq_true late))

end StorageOS
