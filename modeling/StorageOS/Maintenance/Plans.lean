import StorageOS.Maintenance.Recurrence
import StorageOS.Lib.Processes

/-! Maintenance plans. A plan keeps the date of its next visit; a generation creates the task of that
date and moves the plan on to a date that is not past. Plans are edited, paused and resumed between the
transactions of the generations. -/

namespace StorageOS

abbrev MaintenancePlanId := ℕ
abbrev MaintenanceFacilityId := ℕ

/-- A date written with four digits for its year. -/
abbrev StartDate := {d : Date // 0 ≤ Gregorian.year d}

/-- `scheduledFrom` records the day from which the dates of the schedule count. -/
structure MaintenancePlan where
  spec : RecurrenceSpec
  valid : spec.Valid
  facilityId : Option MaintenanceFacilityId
  startDate : Date
  nextRunDate : Date
  lastGeneratedAt : Option ℕ
  isActive : Bool
  scheduledFrom : Date

/-- A task of a plan, with the schedule that the plan had when it was created, the day of the
generation and the date to which it moved the plan. -/
structure MaintenanceTask where
  maintenancePlanId : MaintenancePlanId
  dueDate : Date
  spec : RecurrenceSpec
  scheduledFrom : Date
  day : Date
  next : Date

structure MaintenanceDb where
  plans : Table MaintenancePlanId MaintenancePlan
  deletedFacilities : List MaintenanceFacilityId
  tasks : List MaintenanceTask

def MaintenanceDb.empty : MaintenanceDb := ⟨.empty, [], []⟩

structure CreateMaintenancePlanInput where
  spec : RecurrenceSpec
  valid : spec.Valid
  facilityId : Option MaintenanceFacilityId
  startDate : Option StartDate

structure UpdateMaintenancePlanInput where
  freq : Option MaintenanceFreq
  interval : Option ℤ
  weekdays : Option (List Weekday)
  dayOfMonth : Option (Option DayOfMonth)
  startDate : Option StartDate
  facilityId : Option (Option MaintenanceFacilityId)
  isActive : Option Bool

structure ScheduleChange where
  spec : RecurrenceSpec
  valid : spec.Valid
  startDate : Option StartDate
  scheduledFrom : Date
  nextRunDate : Date

structure PlanChanges where
  schedule : Option ScheduleChange
  facilityId : Option (Option MaintenanceFacilityId)
  isActive : Option Bool

abbrev MaintenanceScope := Option (List MaintenanceFacilityId)

inductive MaintenanceRequest
  | create (input : CreateMaintenancePlanInput) (scope : MaintenanceScope)
  | update (id : MaintenancePlanId) (input : UpdateMaintenancePlanInput) (scope : MaintenanceScope)
  | generateDue
  | generateFromPlan (id : MaintenancePlanId) (scope : MaintenanceScope)
  | deleteFacility (id : MaintenanceFacilityId)
  | restoreFacility (id : MaintenanceFacilityId) (plans : List MaintenancePlanId)

/-- What a request does next. A generation keeps its day, the plan that it read and the plans left. -/
inductive MaintenanceCall
  | creating (input : CreateMaintenancePlanInput)
  | editing (id : MaintenancePlanId) (input : UpdateMaintenancePlanInput) (scope : MaintenanceScope)
  | saving (id : MaintenancePlanId) (data : PlanChanges)
  | selecting
  | checking (id : MaintenancePlanId) (scope : MaintenanceScope)
  | generating (id : MaintenancePlanId) (rest : List MaintenancePlanId)
  | reading (id : MaintenancePlanId) (today : Date) (rest : List MaintenancePlanId)
  | writing (id : MaintenancePlanId) (plan : MaintenancePlan) (today : Date)
      (rest : List MaintenancePlanId)
  | deletingFacility (id : MaintenanceFacilityId)
  | restoringFacility (id : MaintenanceFacilityId) (plans : List MaintenancePlanId)

/-- The time in milliseconds since 1970, or a failure. -/
inductive MaintenanceInput
  | proceed (now : ℕ)
  | fail

/-- `toDateOnly` without a date. -/
def maintenanceToday (now : ℕ) : Date := now / 86400000

def toDateOnly (startDate : Option StartDate) (now : ℕ) : Date :=
  startDate.elim (maintenanceToday now) Subtype.val

def assertFacilityAllowed (scope : MaintenanceScope) (facilityId : Option MaintenanceFacilityId) :
    Bool :=
  facilityId.all fun f => scope.all (f ∈ ·)

def createPlan (input : CreateMaintenancePlanInput) (now : ℕ) : MaintenancePlan where
  spec := input.spec
  valid := input.valid
  facilityId := input.facilityId
  startDate := toDateOnly input.startDate now
  nextRunDate := firstOccurrence input.spec (toDateOnly input.startDate now)
  lastGeneratedAt := none
  isActive := true
  scheduledFrom := dateOnlyUtc (toDateOnly input.startDate now)

def UpdateMaintenancePlanInput.scheduleChanged (i : UpdateMaintenancePlanInput) : Bool :=
  i.freq.isSome || i.interval.isSome || i.weekdays.isSome || i.dayOfMonth.isSome ||
    i.startDate.isSome

def UpdateMaintenancePlanInput.spec (i : UpdateMaintenancePlanInput) (current : RecurrenceSpec) :
    RecurrenceSpec where
  freq := i.freq.getD current.freq
  interval := i.interval.getD current.interval
  weekdays := i.weekdays.getD current.weekdays
  dayOfMonth := i.dayOfMonth.getD current.dayOfMonth

/-- What an edit writes; `none` when the new frequency is not valid. -/
def planChanges (i : UpdateMaintenancePlanInput) (current : MaintenancePlan) (now : ℕ) :
    Option PlanChanges :=
  if i.scheduleChanged then
    let spec := i.spec current.spec
    if weekly : spec.freq = .weekly ∧ spec.weekdays = [] then none
    else if monthly : spec.freq = .monthly ∧ spec.dayOfMonth = none then none
    else
      let start := toDateOnly i.startDate now
      some ⟨some ⟨spec, ⟨fun w e => weekly ⟨w, e⟩, fun m e => monthly ⟨m, e⟩⟩, i.startDate,
        dateOnlyUtc start, firstOccurrence spec start⟩, i.facilityId, i.isActive⟩
  else some ⟨none, i.facilityId, i.isActive⟩

def PlanChanges.apply (data : PlanChanges) (p : MaintenancePlan) : MaintenancePlan :=
  let edited := { p with
    facilityId := data.facilityId.getD p.facilityId
    isActive := data.isActive.getD p.isActive }
  match data.schedule with
  | none => edited
  | some s =>
    { edited with
      spec := s.spec
      valid := s.valid
      startDate := s.startDate.elim p.startDate Subtype.val
      nextRunDate := s.nextRunDate
      scheduledFrom := s.scheduledFrom }

/-- The query of `generateDue`. -/
def MaintenanceDb.duePlans (db : MaintenanceDb) (today : Date) : List MaintenancePlanId :=
  let due := db.plans.rows.filter fun q => q.2.isActive && q.2.nextRunDate ≤ today &&
    q.2.facilityId.all (· ∉ db.deletedFacilities)
  ((due.mergeSort fun p q => p.2.nextRunDate ≤ q.2.nextRunDate).take 500).map Prod.fst

/-- The plans left of a `generateDue`. -/
def generateNext : List MaintenancePlanId → Option MaintenanceCall
  | [] => none
  | id :: rest => some (.generating id rest)

def catchUpGuard : ℕ := 1000

def MaintenancePlan.caughtUp (plan : MaintenancePlan) (today : Date) : Date :=
  catchUp plan.spec today catchUpGuard (nextOccurrence plan.spec plan.nextRunDate)

def MaintenanceDb.generate (db : MaintenanceDb) (id : MaintenancePlanId)
    (plan stored : MaintenancePlan) (today : Date) (now : ℕ) : MaintenanceDb :=
  let next := plan.caughtUp today
  { db with
    plans := db.plans.modify id fun p => { p with nextRunDate := next, lastGeneratedAt := some now }
    tasks := ⟨id, plan.nextRunDate, stored.spec, stored.scheduledFrom, today, next⟩ :: db.tasks }

def stepMaintenance (db : MaintenanceDb) (now : ℕ) :
    MaintenanceCall → MaintenanceDb × Option MaintenanceCall
  | .creating input => ({ db with plans := db.plans.push (createPlan input now) }, none)
  | .editing id input scope =>
    match db.plans.find id with
    | none => (db, none)
    | some current =>
      if !assertFacilityAllowed scope current.facilityId ||
          !assertFacilityAllowed scope input.facilityId.join then (db, none)
      else (db, (planChanges input current now).map (.saving id))
  | .saving id data => ({ db with plans := db.plans.modify id data.apply }, none)
  | .selecting => (db, generateNext (db.duePlans (maintenanceToday now)))
  | .checking id scope =>
    match db.plans.find id with
    | none => (db, none)
    | some plan =>
      if assertFacilityAllowed scope plan.facilityId then (db, some (.generating id [])) else (db, none)
  | .generating id rest => (db, some (.reading id (maintenanceToday now) rest))
  | .reading id today rest =>
    match db.plans.find id with
    | none => (db, generateNext rest)
    | some plan =>
      if !plan.isActive || today < plan.nextRunDate then (db, generateNext rest)
      else (db, some (.writing id plan today rest))
  | .writing id plan today rest =>
    match db.plans.find id with
    | none => (db, generateNext rest)
    | some stored => (db.generate id plan stored today now, generateNext rest)
  | .deletingFacility f =>
    ({ db with
      plans := db.plans.updateMany (fun q => q.2.facilityId = some f && q.2.isActive)
        fun p => { p with isActive := false }
      deletedFacilities := f :: db.deletedFacilities }, none)
  | .restoringFacility f ids =>
    ({ db with
      plans := db.plans.updateMany (·.1 ∈ ids) fun p => { p with isActive := true }
      deletedFacilities := db.deletedFacilities.filter (· ≠ f) }, none)

/-- A generation that fails is given up and `generateDue` goes on. -/
def failMaintenance : MaintenanceCall → Option MaintenanceCall
  | .generating _ rest | .reading _ _ rest | .writing _ _ _ rest => generateNext rest
  | .creating _ | .editing .. | .saving .. | .selecting | .checking .. | .deletingFacility _
  | .restoringFacility .. => none

def nextMaintenance (db : MaintenanceDb) (call : MaintenanceCall) :
    MaintenanceInput → Option (MaintenanceDb × Option MaintenanceCall)
  | .proceed now => some (stepMaintenance db now call)
  | .fail => some (db, failMaintenance call)

def enterMaintenance (_db : MaintenanceDb) : MaintenanceRequest → Option MaintenanceCall
  | .create input scope =>
    if assertFacilityAllowed scope input.facilityId then some (.creating input) else none
  | .update id input scope => some (.editing id input scope)
  | .generateDue => some .selecting
  | .generateFromPlan id none => some (.generating id [])
  | .generateFromPlan id scope => some (.checking id scope)
  | .deleteFacility id => some (.deletingFacility id)
  | .restoreFacility id plans => some (.restoringFacility id plans)

def maintenanceSystem :
    Processes.System MaintenanceDb MaintenanceCall MaintenanceRequest MaintenanceInput where
  enter := enterMaintenance
  next := nextMaintenance

end StorageOS
