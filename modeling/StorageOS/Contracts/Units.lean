import StorageOS.Contracts.Term

/-! The units of a tenant, what is rented and reserved of them, and who holds a unit that is not
for sale. -/

namespace StorageOS

abbrev UnitId := ℕ
abbrev ReservationId := ℕ
abbrev WaitlistEntryId := ℕ

inductive UnitStatus
  | available
  | occupied
  | reserved
  | maintenance
  | blocked
  deriving DecidableEq

def UnitStatus.name : UnitStatus → String
  | .available => "available"
  | .occupied => "occupied"
  | .reserved => "reserved"
  | .maintenance => "maintenance"
  | .blocked => "blocked"

inductive ReservationStatus
  | pending
  | confirmed
  | expired
  | converted
  | cancelled
  deriving DecidableEq

def ReservationStatus.name : ReservationStatus → String
  | .pending => "pending"
  | .confirmed => "confirmed"
  | .expired => "expired"
  | .converted => "converted"
  | .cancelled => "cancelled"

inductive WaitlistStatus
  | waiting
  | notified
  | converted
  | cancelled
  deriving DecidableEq

inductive ContractDepositStatus
  | none
  | held
  | returned
  | partiallyReturned
  deriving DecidableEq

structure RentalCustomer where
  deletedAt : Option Instant
  isTest : Bool
  depositExempt : Bool
  deriving DecidableEq

structure Facility where
  deletedAt : Option Instant
  preOpening : Bool
  openingDate : Option Date
  preOpeningMaxMonths : ℤ
  deriving DecidableEq

structure StorageUnit where
  facilityId : FacilityId
  status : UnitStatus
  basePriceMonthly : ℤ
  deriving DecidableEq

/-- A contract with its tenant, its unit and the move that is scheduled for it. -/
structure Tenancy extends Contract where
  customerId : CustomerId
  unitId : UnitId
  firstPaymentDeadline : Option Instant
  preOpeningDeadline : Option Date
  preOpeningDateConfirmed : Bool
  depositStatus : ContractDepositStatus
  scheduledUnitId : Option UnitId
  scheduledUnitDate : Option Date
  scheduledUnitPrice : Option ℤ
  scheduledUnitProrate : Bool
  deriving DecidableEq

structure Reservation where
  unitId : UnitId
  customerId : Option CustomerId
  status : ReservationStatus
  validUntil : Instant
  depositPaid : Bool
  depositInvoiceId : Option InvoiceId
  convertedContractId : Option ContractId
  deriving DecidableEq

structure WaitlistEntry where
  heldUnitId : Option UnitId
  customerId : Option CustomerId
  status : WaitlistStatus
  convertedContractId : Option ContractId
  deriving DecidableEq

structure SignalItem where
  total : ℤ
  taxAmount : ℤ
  deriving DecidableEq

structure SignalInvoice where
  status : InvoiceStatus
  invoiceNumber : String
  items : List SignalItem
  deriving DecidableEq

/-- The tables that renting reads and writes, of one tenant of the platform. -/
structure RentalDb where
  customers : Table CustomerId RentalCustomer
  facilities : Table FacilityId Facility
  units : Table UnitId StorageUnit
  contracts : Table ContractId Tenancy
  reservations : Table ReservationId Reservation
  waitlist : Table WaitlistEntryId WaitlistEntry
  invoices : Table InvoiceId SignalInvoice
  deriving DecidableEq

def Reservation.isOpen (r : Reservation) : Bool := r.status = .pending || r.status = .confirmed

def WaitlistEntry.isOpen (e : WaitlistEntry) : Bool := e.status = .waiting || e.status = .notified

def Tenancy.isLive (c : Tenancy) : Bool := c.status = .active || c.status = .ending

def Tenancy.inForce (c : Tenancy) : Bool := c.isLive && c.deletedAt.isNone

/-! ### Who holds a unit -/

/-- A question who else holds a unit. What is of the contract, the tenant, the reservation or the
waitlist entry given does not count. -/
structure HoldQuery where
  unitId : UnitId
  contractId : Option ContractId := none
  customerId : Option CustomerId := none
  reservationId : Option ReservationId := none
  waitlistEntryId : Option WaitlistEntryId := none
  ignoreReservations : Bool := false

def Tenancy.holdQuery (c : Tenancy) (id : ContractId) (unitId : UnitId) : HoldQuery where
  unitId := unitId
  contractId := some id
  customerId := some c.customerId

def otherOrNobody (own : Option CustomerId) (customerId : Option CustomerId) : Bool :=
  own.isNone || customerId ≠ own

def Reservation.holds (now : Instant) (q : HoldQuery) (id : ReservationId) (r : Reservation) : Bool :=
  r.unitId = q.unitId && r.isOpen && now < r.validUntil && q.reservationId ≠ some id &&
    otherOrNobody q.customerId r.customerId

def Tenancy.ofOther (q : HoldQuery) (id : ContractId) (c : Tenancy) : Bool :=
  c.unitId = q.unitId && c.deletedAt.isNone && q.contractId ≠ some id &&
    q.customerId ≠ some c.customerId

/-- A draft within the time of its first payment, or a reservation before the opening. -/
def Tenancy.holds (now : Instant) (q : HoldQuery) (id : ContractId) (c : Tenancy) : Bool :=
  c.ofOther q id &&
    ((c.status = .draft && c.firstPaymentDeadline.any (now < ·)) ||
      (c.status = .active && c.isPendingPreOpening))

def Tenancy.movesTo (q : HoldQuery) (id : ContractId) (c : Tenancy) : Bool :=
  c.scheduledUnitId = some q.unitId && c.inForce && q.contractId ≠ some id

def WaitlistEntry.holds (q : HoldQuery) (id : WaitlistEntryId) (e : WaitlistEntry) : Bool :=
  e.heldUnitId = some q.unitId && e.status = .notified && q.waitlistEntryId ≠ some id &&
    otherOrNobody q.customerId e.customerId

/-- The unit was held for a draft by a reservation or a waitlist entry that became the draft. -/
def RentalDb.keptForDraft (db : RentalDb) (unitId : UnitId) (id : ContractId) : Bool :=
  (db.reservations.rows.any fun r =>
    r.2.unitId = unitId && r.2.status = .converted && r.2.convertedContractId = some id) ||
  (db.waitlist.rows.any fun e =>
    e.2.heldUnitId = some unitId && e.2.convertedContractId = some id)

def unitHeldByOther (now : Instant) (q : HoldQuery) (db : RentalDb) : Bool :=
  (!q.ignoreReservations && db.reservations.rows.any fun r => r.2.holds now q r.1) ||
  (db.contracts.rows.any fun c => c.2.holds now q c.1) ||
  (db.contracts.rows.any fun c => c.2.movesTo q c.1) ||
  (db.waitlist.rows.any fun e => e.2.holds q e.1) ||
  (db.contracts.rows.any fun c =>
    c.2.ofOther q c.1 && c.2.status = .draft && db.keptForDraft q.unitId c.1)

/-! ### Writes on the tables -/

def RentalDb.setUnitStatus (db : RentalDb) (unitId : UnitId) (status : UnitStatus) : RentalDb :=
  { db with units := db.units.modify unitId fun u => { u with status := status } }

/-- Puts a reserved unit back on sale, unless somebody else holds it. -/
def releaseReservedUnit (now : Instant) (q : HoldQuery) (db : RentalDb) : RentalDb :=
  if unitHeldByOther now q db then db
  else if (db.units.find q.unitId).any fun u => u.status = .reserved then
    db.setUnitStatus q.unitId .available
  else db

def uniqueConstraint : Failure := conflict "P2002" "Unique constraint failed"

/-- Updates a contract by its id. The index admits one contract in force on each unit. -/
def RentalDb.updateContract (db : RentalDb) (id : ContractId) (taken : Failure)
    (f : Tenancy → Tenancy) : Outcome RentalDb := do
  let c ← orMissing (db.contracts.find id)
  refuseIf ((f c).inForce ∧
    (db.contracts.rows.any fun d => d.1 ≠ id && d.2.inForce && d.2.unitId = (f c).unitId)) taken
  .ok { db with contracts := db.contracts.modify id f }

theorem updateContract_ok {db db' : RentalDb} {id : ContractId} {taken : Failure}
    {f : Tenancy → Tenancy} (h : db.updateContract id taken f = .ok db') :
    ∃ c, db.contracts.find id = some c ∧
      ((f c).inForce = true → ∀ j d, db.contracts.find j = some d → j ≠ id → d.inForce = true →
        d.unitId ≠ (f c).unitId) ∧
      db' = { db with contracts := db.contracts.modify id f } := by
  obtain ⟨c, found, h⟩ := Outcome.bind_ok h
  obtain ⟨_, free, h⟩ := Outcome.bind_ok h
  cases h
  refine ⟨c, orMissing_ok found, fun live j d row other force same => ?_, rfl⟩
  apply refuseIf_ok free
  refine ⟨live, List.any_eq_true.mpr ⟨(j, d), Table.find_eq_some.mp row, ?_⟩⟩
  simp [other, force, same]

end StorageOS
