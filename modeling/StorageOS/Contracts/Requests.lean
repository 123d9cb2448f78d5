import StorageOS.Contracts.Operations
import StorageOS.Lib.Processes

/-! What the transactions of contracts have found and done when they are not refused. -/

namespace StorageOS

variable {clock : RentalClock} {id : ContractId} {existing : Tenancy} {db db' : RentalDb}

@[simp] theorem setUnitStatus_contracts (unitId : UnitId) (status : UnitStatus) :
    (db.setUnitStatus unitId status).contracts = db.contracts := rfl

@[simp] theorem setUnitStatus_reservations (unitId : UnitId) (status : UnitStatus) :
    (db.setUnitStatus unitId status).reservations = db.reservations := rfl

@[simp] theorem setUnitStatus_waitlist (unitId : UnitId) (status : UnitStatus) :
    (db.setUnitStatus unitId status).waitlist = db.waitlist := rfl

theorem releaseReservedUnit_eq (now : Instant) (q : HoldQuery) (db : RentalDb) :
    releaseReservedUnit now q db = { db with units := (releaseReservedUnit now q db).units } := by
  unfold releaseReservedUnit
  split_ifs <;> rfl

theorem releaseScheduledUnit_eq (now : Instant) (id : ContractId) (existing : Tenancy)
    (db : RentalDb) : releaseScheduledUnit now id existing db =
      { db with units := (releaseScheduledUnit now id existing db).units } := by
  unfold releaseScheduledUnit
  split
  · rfl
  · exact releaseReservedUnit_eq now _ db

@[simp] theorem releaseReservedUnit_contracts (now : Instant) (q : HoldQuery) :
    (releaseReservedUnit now q db).contracts = db.contracts := by
  rw [releaseReservedUnit_eq]

@[simp] theorem releaseScheduledUnit_contracts (now : Instant) :
    (releaseScheduledUnit now id existing db).contracts = db.contracts := by
  rw [releaseScheduledUnit_eq]

theorem assertTransition_ok {source target : ContractStatus} {u : Unit}
    (h : source.assertTransition target = .ok u) : target ∈ source.allowedTransitions :=
  not_not.mp (refuseIf_ok h)

/-- The contract under `id` has been changed by `f`, and the index has admitted the change. -/
structure RentalDb.Updated (db : RentalDb) (id : ContractId) (f : Tenancy → Tenancy)
    (db' : RentalDb) : Prop where
  contracts : db'.contracts = db.contracts.modify id f
  stored : ∃ c, db.contracts.find id = some c
  free : ∀ c j d, db.contracts.find id = some c → (f c).inForce = true →
    db.contracts.find j = some d → j ≠ id → d.inForce = true → d.unitId ≠ (f c).unitId

theorem updateContract_updated {taken : Failure} {f : Tenancy → Tenancy}
    (h : db.updateContract id taken f = .ok db') :
    db.Updated id f db' ∧ db' = { db with contracts := db.contracts.modify id f } := by
  obtain ⟨c, found, free, rfl⟩ := updateContract_ok h
  refine ⟨⟨rfl, ⟨c, found⟩, fun c' j d found' live row other force => ?_⟩, rfl⟩
  rw [found] at found'
  cases found'
  exact free live j d row other force

theorem sign_ok (h : sign clock id existing db = .ok db') :
    existing.status = .draft ∧ ∃ unit facility, db.units.find existing.unitId = some unit ∧
      (unit.status = .available ∨ unit.status = .reserved) ∧
      (∀ k r, db.reservations.find k = some r → r.unitId = existing.unitId → r.isOpen = true →
        r.customerId = some existing.customerId) ∧
      (unit.status = .reserved →
        unitHeldByOther clock.now (existing.holdQuery id existing.unitId) db = false) ∧
      db.Updated id (existing.signed facility) db' ∧
      db'.units = (db.setUnitStatus existing.unitId
        (if existing.isPendingPreOpening then .reserved else .occupied)).units ∧
      db'.reservations = (db.convertOwnReservations id existing).reservations ∧
      db'.waitlist = db.waitlist ∧ db'.invoices = db.invoices := by
  unfold sign at h
  obtain ⟨_, allowed, h⟩ := Outcome.bind_ok h
  obtain ⟨unit, found, h⟩ := Outcome.bind_ok h
  obtain ⟨facility, -, h⟩ := Outcome.bind_ok h
  obtain ⟨_, -, h⟩ := Outcome.bind_ok h
  obtain ⟨_, forSale, h⟩ := Outcome.bind_ok h
  obtain ⟨_, foreign, h⟩ := Outcome.bind_ok h
  obtain ⟨_, held, h⟩ := Outcome.bind_ok h
  obtain ⟨signed, updated, h⟩ := Outcome.bind_ok h
  cases h
  have fromDraft : existing.status = .draft := by
    have := assertTransition_ok allowed
    cases status : existing.status <;> simp [status, ContractStatus.allowedTransitions] at this
    rfl
  obtain ⟨⟨contracts, stored, free⟩, rfl⟩ := updateContract_updated updated
  refine ⟨fromDraft, unit, facility, orFail_ok found, ?_, ?_, ?_, ⟨contracts, stored, free⟩, rfl,
    rfl, rfl, rfl⟩
  · have := refuseIf_ok forSale
    cases status : unit.status <;> simp [status] at this ⊢
  · intro k r row on live
    have := refuseIf_ok foreign
    simp only [List.any_eq_true, not_exists, not_and] at this
    have := this (k, r) (Table.find_eq_some.mp row)
    simpa [on, live] using this
  · intro reserved
    have := refuseIf_ok held
    simpa [reserved] using this

theorem endContract_ok (h : endContract clock id existing db = .ok db') :
    existing.isLive = true ∧ existing.isPendingPreOpening = false ∧
    ∃ unit ended, db.units.find existing.unitId = some unit ∧
      ended = { db with
        contracts := db.contracts.modify id (Tenancy.ended (existing.effectiveEnd clock.today)) } ∧
      (∃ c, db.contracts.find id = some c) ∧
      db' = releaseScheduledUnit clock.now id existing (if unit.status = .occupied then
        ended.setUnitStatus existing.unitId .available else ended) := by
  unfold endContract at h
  obtain ⟨_, allowed, h⟩ := Outcome.bind_ok h
  obtain ⟨_, started, h⟩ := Outcome.bind_ok h
  obtain ⟨ended, updated, h⟩ := Outcome.bind_ok h
  obtain ⟨unit, found, h⟩ := Outcome.bind_ok h
  cases h
  obtain ⟨⟨-, stored, -⟩, same⟩ := updateContract_updated updated
  have foundUnit := orMissing_ok found
  rw [same] at foundUnit
  refine ⟨?_, by simpa using refuseIf_ok started, unit, ended, foundUnit, same, stored, rfl⟩
  have := assertTransition_ok allowed
  cases status : existing.status <;>
    simp [status, ContractStatus.allowedTransitions, Tenancy.isLive] at this ⊢

theorem cancel_ok (h : cancel clock id existing db = .ok db') :
    (existing.status = .draft ∨ existing.isLive = true) ∧
    ∃ unit cancelled, db.units.find existing.unitId = some unit ∧
      cancelled = { db with contracts := db.contracts.modify id Tenancy.cancelled } ∧
      (∃ c, db.contracts.find id = some c) ∧
      db' = releaseScheduledUnit clock.now id existing (if
        (unit.status = .reserved && heldUnit cancelled id existing &&
          !unitHeldByOther clock.now { unitId := existing.unitId, contractId := some id }
            cancelled) ||
        (existing.isLive && unit.status = .occupied)
        then cancelled.setUnitStatus existing.unitId .available else cancelled) := by
  unfold cancel at h
  obtain ⟨_, allowed, h⟩ := Outcome.bind_ok h
  obtain ⟨cancelled, updated, h⟩ := Outcome.bind_ok h
  obtain ⟨unit, found, h⟩ := Outcome.bind_ok h
  cases h
  obtain ⟨⟨-, stored, -⟩, same⟩ := updateContract_updated updated
  have foundUnit := orMissing_ok found
  rw [same] at foundUnit
  refine ⟨?_, unit, cancelled, foundUnit, same, stored, rfl⟩
  have := assertTransition_ok allowed
  cases status : existing.status <;>
    simp [status, ContractStatus.allowedTransitions, Tenancy.isLive] at this ⊢

theorem findOpenUnit_ok {unitId : UnitId} {unit : StorageUnit}
    (h : db.findOpenUnit unitId = some unit) : db.units.find unitId = some unit := by
  simp only [RentalDb.findOpenUnit, Option.filter_eq_some_iff] at h
  exact h.1

variable {input : ChangeUnitInput}

theorem scheduleMove_ok {date : Date} (h : scheduleMove clock id existing input date db = .ok db') :
    existing.scheduledUnitId = none ∧
    ∃ unit, db.units.find input.newUnitId = some unit ∧ unit.status = .available ∧
      unitHeldByOther clock.now (existing.holdQuery id input.newUnitId) db = false ∧
      db.Updated id (Tenancy.withScheduledMove input date) db' ∧
      db'.units = (db.setUnitStatus input.newUnitId .reserved).units ∧
      db'.reservations = db.reservations ∧ db'.waitlist = db.waitlist := by
  unfold scheduleMove at h
  obtain ⟨_, unscheduled, h⟩ := Outcome.bind_ok h
  obtain ⟨unit, found, h⟩ := Outcome.bind_ok h
  obtain ⟨_, forSale, h⟩ := Outcome.bind_ok h
  obtain ⟨_, held, h⟩ := Outcome.bind_ok h
  obtain ⟨⟨contracts, stored, free⟩, rfl⟩ := updateContract_updated h
  exact ⟨by simpa using refuseIf_ok unscheduled, unit, findOpenUnit_ok (orFail_ok found),
    not_not.mp (refuseIf_ok forSale), by simpa using refuseIf_ok held,
    ⟨contracts, stored, free⟩, rfl, rfl, rfl⟩

/-- The database after the unit that a contract leaves is on sale again. -/
def RentalDb.leave (db : RentalDb) (unitId : UnitId) (unit : StorageUnit) : RentalDb :=
  if unit.status = .occupied ∨ unit.status = .reserved then db.setUnitStatus unitId .available
  else db

theorem leave_eq (unitId : UnitId) (unit : StorageUnit) :
    db.leave unitId unit = { db with units := (db.leave unitId unit).units } := by
  unfold RentalDb.leave
  split <;> rfl

@[simp] theorem leave_contracts (unitId : UnitId) (unit : StorageUnit) :
    (db.leave unitId unit).contracts = db.contracts := by
  rw [leave_eq]

theorem moveNow_ok (h : moveNow clock id existing input db = .ok db') :
    ∃ newUnit oldUnit, db.units.find input.newUnitId = some newUnit ∧
      db.units.find existing.unitId = some oldUnit ∧
      (newUnit.status = .available ∨
        newUnit.status = .reserved ∧ existing.scheduledUnitId = some input.newUnitId) ∧
      unitHeldByOther clock.now (existing.holdQuery id input.newUnitId) db = false ∧
      db.Updated id (Tenancy.moved input) db' ∧
      db'.units = ((db.leave existing.unitId oldUnit).setUnitStatus input.newUnitId
        (if existing.isPendingPreOpening then .reserved else .occupied)).units ∧
      db'.reservations = db.reservations ∧ db'.waitlist = db.waitlist := by
  unfold moveNow at h
  obtain ⟨newUnit, found, h⟩ := Outcome.bind_ok h
  obtain ⟨_, forSale, h⟩ := Outcome.bind_ok h
  obtain ⟨_, held, h⟩ := Outcome.bind_ok h
  obtain ⟨oldUnit, foundOld, h⟩ := Outcome.bind_ok h
  obtain ⟨_, -, h⟩ := Outcome.bind_ok h
  have moved : ((db.leave existing.unitId oldUnit).setUnitStatus input.newUnitId
      (if existing.isPendingPreOpening then .reserved else .occupied)).updateContract id takenByMove
      (Tenancy.moved input) = .ok db' := h
  obtain ⟨⟨contracts, stored, free⟩, rfl⟩ := updateContract_updated moved
  rw [setUnitStatus_contracts, leave_contracts] at stored free
  refine ⟨newUnit, oldUnit, findOpenUnit_ok (orFail_ok found), orMissing_ok foundOld, ?_,
    by simpa using refuseIf_ok held, ⟨?_, stored, free⟩, rfl, ?_, ?_⟩
  · have := refuseIf_ok forSale
    by_cases available : newUnit.status = .available
    · exact .inl available
    · simp only [available, ne_eq, not_false_eq_true, true_and, not_not] at this
      exact .inr ⟨this.2, this.1⟩
  · rw [setUnitStatus_contracts, leave_contracts]
  · rw [setUnitStatus_reservations, leave_eq]
  · rw [setUnitStatus_waitlist, leave_eq]

theorem changeUnit_ok (h : changeUnit clock id existing input db = .ok db') :
    existing.isLive = true ∧ input.newUnitId ≠ existing.unitId ∧
    (moveNow clock id existing input db = .ok db' ∨
      existing.isPendingPreOpening = false ∧
        ∃ date, scheduleMove clock id existing input date db = .ok db') := by
  unfold changeUnit at h
  obtain ⟨_, live, h⟩ := Outcome.bind_ok h
  obtain ⟨_, other, h⟩ := Outcome.bind_ok h
  obtain ⟨_, -, h⟩ := Outcome.bind_ok h
  refine ⟨?_, refuseIf_ok other, ?_⟩
  · have := refuseIf_ok live
    unfold Tenancy.isLive
    cases status : existing.status <;> simp [status] at this ⊢
  · cases later : input.effectiveDate.filter (clock.today < ·) with
    | none =>
      rw [later] at h
      exact .inl h
    | some date =>
      rw [later] at h
      obtain ⟨_, started, h⟩ := Outcome.bind_ok h
      exact .inr ⟨by simpa using refuseIf_ok started, date, h⟩

theorem cancelScheduledMove_ok (h : cancelScheduledMove clock id existing db = .ok db') :
    db.Updated id Tenancy.withoutScheduledMove db' ∧
      db'.units = (releaseScheduledUnit clock.now id existing db).units ∧
      db'.reservations = db.reservations ∧ db'.waitlist = db.waitlist := by
  unfold cancelScheduledMove at h
  obtain ⟨⟨contracts, stored, free⟩, rfl⟩ := updateContract_updated h
  rw [releaseScheduledUnit_contracts] at stored free
  refine ⟨⟨by rw [releaseScheduledUnit_contracts], stored, free⟩, rfl, ?_, ?_⟩ <;>
    rw [releaseScheduledUnit_eq]

variable {now : Instant} {input : CreateContractInput} {reads : ContractReads} {credit : Option SignalCredit}

theorem convertWaitlistEntry_contracts :
    (convertWaitlistEntry now id input db).contracts = db.contracts := by
  unfold convertWaitlistEntry
  split
  · rfl
  · split
    · rfl
    · split
      · rw [releaseReservedUnit_contracts]
        rfl
      · rfl

theorem convertWaitlistEntry_reservations :
    (convertWaitlistEntry now id input db).reservations = db.reservations := by
  unfold convertWaitlistEntry
  split
  · rfl
  · split
    · rfl
    · split
      · rw [releaseReservedUnit_eq]
        rfl
      · rfl

theorem readForContract_ok (h : readForContract input db = .ok reads) :
    readReservation input db = .ok reads.reservation := by
  unfold readForContract at h
  replace h := Outcome.passed (Outcome.passed h)
  obtain ⟨customer, -, h⟩ := Outcome.bind_ok h
  obtain ⟨unit, -, h⟩ := Outcome.bind_ok h
  obtain ⟨facility, -, h⟩ := Outcome.bind_ok h
  obtain ⟨reservation, read, h⟩ := Outcome.bind_ok h
  cases h
  exact read

theorem create_ok (h : create clock input db = .ok db') :
    ∃ reads, readReservation input db = .ok reads.reservation ∧
      db' = writeContract clock input reads (reads.credit db) db := by
  obtain ⟨reads, read, h⟩ := Outcome.bind_ok h
  cases h
  exact ⟨reads, readForContract_ok read, rfl⟩

theorem convertWaitlistEntry_invoices :
    (convertWaitlistEntry now id input db).invoices = db.invoices := by
  unfold convertWaitlistEntry
  split
  · rfl
  · split
    · rfl
    · split
      · rw [releaseReservedUnit_eq]
        rfl
      · rfl

theorem writeContract_invoices :
    (writeContract clock input reads credit db).invoices = db.invoices := by
  unfold writeContract convertReservation
  split
  · exact convertWaitlistEntry_invoices
  · split
    · exact convertWaitlistEntry_invoices
    · exact convertWaitlistEntry_invoices

theorem find_writeContract {k : ContractId} {c : Tenancy} (found : db.contracts.find k = some c) :
    (writeContract clock input reads credit db).contracts.find k = some c := by
  have fresh : k ≠ db.contracts.nextKey := by
    rintro rfl
    rw [Table.find_nextKey] at found
    cases found
  unfold writeContract convertReservation
  split
  · rw [convertWaitlistEntry_contracts]
    exact Table.find_push_of_some found _
  · split
    · simp only [RentalDb.markConverted, convertWaitlistEntry_contracts]
      exact Table.find_push_of_some found _
    · simp only [RentalDb.setCredit, RentalDb.markConverted, convertWaitlistEntry_contracts]
      rw [Table.find_modify_ne _ fresh]
      exact Table.find_push_of_some found _

theorem writeContract_stored : ∃ c,
    (writeContract clock input reads credit db).contracts.find db.contracts.nextKey = some c := by
  unfold writeContract convertReservation
  split
  · simp [convertWaitlistEntry_contracts, Table.find_push]
  · split
    · simp [RentalDb.markConverted, convertWaitlistEntry_contracts, Table.find_push]
    · simp [RentalDb.setCredit, RentalDb.markConverted, convertWaitlistEntry_contracts,
        Table.find_push]

theorem find_create (h : create clock input db = .ok db') {k : ContractId} {c : Tenancy}
    (found : db.contracts.find k = some c) :
    db'.contracts.find k = some c := by
  obtain ⟨reads, -, rfl⟩ := create_ok h
  exact find_writeContract found

theorem writeContract_reservations :
    (writeContract clock input reads credit db).reservations = match reads.reservation with
      | none => db.reservations
      | some (k, _) =>
        db.reservations.modify k (Reservation.convertedTo db.contracts.nextKey) := by
  unfold writeContract convertReservation
  cases reads.reservation with
  | none => exact convertWaitlistEntry_reservations
  | some read =>
    simp only
    split <;>
      simp only [RentalDb.setCredit, RentalDb.markConverted, convertWaitlistEntry_reservations]

end StorageOS

/-! Requests on the contracts of a tenant under way at once. Each reads its contract first and writes
in a transaction later; the job of scheduled moves reads the moves that are due before that. -/

namespace StorageOS

inductive ContractRequest
  | sign
  | cancel
  | requestEnd (endDate : Option Date)
  | requestEndByCustomer (endDate : Date)
  | cancelMoveOutByCustomer
  | renew (months : ℤ)
  | endContract
  | changeUnit (input : ChangeUnitInput)
  | cancelScheduledMove
  deriving DecidableEq

/-- The transaction of a request that has read the contract `existing`. -/
def RentalDb.commit (db : RentalDb) (clock : RentalClock) (id : ContractId) (existing : Tenancy) :
    ContractRequest → Outcome RentalDb
  | .sign => sign clock id existing db
  | .cancel => cancel clock id existing db
  | .requestEnd endDate => do
    let written ← requestEnd clock.today endDate existing.toContract
    db.updateContract id uniqueConstraint (Tenancy.withEnd written)
  | .requestEndByCustomer endDate => do
    let written ← requestEndByCustomer clock.today endDate existing.toContract
    db.updateContract id uniqueConstraint (Tenancy.withEnd written)
  | .cancelMoveOutByCustomer => do
    let written ← cancelMoveOutByCustomer clock.today existing.toContract
    db.updateContract id uniqueConstraint (Tenancy.withEnd written)
  | .renew months => do
    let written ← renew clock.today months existing.toContract
    db.updateContract id uniqueConstraint (existing.renewed written)
  | .endContract => endContract clock id existing db
  | .changeUnit input => changeUnit clock id existing input db
  | .cancelScheduledMove => cancelScheduledMove clock id existing db

inductive RentalRequest
  | create (input : CreateContractInput)
  | onContract (id : ContractId) (request : ContractRequest)
  | applyScheduledMove (id : ContractId) (today : Date)

/-- What a request under way remembers: the contract it has read, or the move that is due. -/
inductive RentalProcess
  | create (input : CreateContractInput)
  | write (id : ContractId) (existing : Tenancy) (request : ContractRequest)
  | move (id : ContractId) (input : ChangeUnitInput)
  deriving DecidableEq

def RentalDb.findContract (db : RentalDb) (id : ContractId) : Option Tenancy :=
  (db.contracts.find id).filter fun c => c.deletedAt.isNone

def Tenancy.dueMove (today : Date) (c : Tenancy) : Option ChangeUnitInput :=
  if c.inForce && c.scheduledUnitDate.any (· ≤ today) then
    c.scheduledUnitId.map fun unitId =>
      ⟨unitId, c.scheduledUnitPrice, c.scheduledUnitProrate, none⟩
  else none

/-- The first read of a request. A contract is created in one transaction without it. -/
def RentalDb.enter (db : RentalDb) : RentalRequest → Option RentalProcess
  | .create input => some (.create input)
  | .onContract id request => (db.findContract id).map fun existing => .write id existing request
  | .applyScheduledMove id today =>
    ((db.contracts.find id).bind fun c => c.dueMove today).map fun input => .move id input

/-- The next transaction of a request. A move that is due is read again before it is made. -/
def RentalDb.advance (db : RentalDb) (clock : RentalClock) :
    RentalProcess → Option (RentalDb × Option RentalProcess)
  | .create input => (create clock input db).toOption.map fun db' => (db', none)
  | .write id existing request =>
    (db.commit clock id existing request).toOption.map fun db' => (db', none)
  | .move id input =>
    (db.findContract id).map fun existing => (db, some (.write id existing (.changeUnit input)))

def rentals : Processes.System RentalDb RentalProcess RentalRequest RentalClock where
  enter := RentalDb.enter
  next db process clock := db.advance clock process

theorem advance_cases {db db' : RentalDb} {process : RentalProcess} {clock : RentalClock}
    {rest : Option RentalProcess} (h : db.advance clock process = some (db', rest)) :
    (∃ input, process = .create input ∧ create clock input db = .ok db' ∧ rest = none) ∨
    (∃ id existing request, process = .write id existing request ∧
      db.commit clock id existing request = .ok db' ∧ rest = none) ∨
    (∃ id input existing, process = .move id input ∧ db.findContract id = some existing ∧
      db' = db ∧ rest = some (.write id existing (.changeUnit input))) := by
  cases process with
  | create input =>
    simp only [RentalDb.advance, Option.map_eq_some_iff, Prod.mk.injEq] at h
    obtain ⟨made, ok, rfl, rfl⟩ := h
    exact .inl ⟨input, rfl, Outcome.ok_of_toOption ok, rfl⟩
  | write id existing request =>
    simp only [RentalDb.advance, Option.map_eq_some_iff, Prod.mk.injEq] at h
    obtain ⟨made, ok, rfl, rfl⟩ := h
    exact .inr (.inl ⟨id, existing, request, rfl, Outcome.ok_of_toOption ok, rfl⟩)
  | move id input =>
    simp only [RentalDb.advance, Option.map_eq_some_iff, Prod.mk.injEq] at h
    obtain ⟨existing, found, rfl, rfl⟩ := h
    exact .inr (.inr ⟨id, input, existing, rfl, found, rfl, rfl⟩)

end StorageOS
