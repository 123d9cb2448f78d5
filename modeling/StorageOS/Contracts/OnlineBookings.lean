import Mathlib.Data.List.MinMax
import Mathlib.Data.Prod.Lex
import StorageOS.Contracts.Units
import StorageOS.Coupons.Quote
import StorageOS.Lib.Processes

/-! Online bookings: `BookingService.createBooking` of the public site and `bookForExistingCustomer` of the portal.
Each reserves a unit in one transaction, under an advisory lock, and creates the contract in another, after whose
failure it lets the unit go. -/

namespace StorageOS

open Processes

structure BookableUnit where
  facilityId : FacilityId
  unitTypeId : UnitTypeId
  status : UnitStatus
  basePriceMonthly : ℤ
  /-- Its place in the order of the codes. -/
  code : ℕ
  /-- The facility is open and active, and the type is active. -/
  onSale : Bool
  deriving DecidableEq

structure UnitReservation where
  unitId : UnitId
  validUntil : Instant

structure HoldingEntry where
  facilityId : FacilityId
  unitTypeId : UnitTypeId
  heldUnitId : Option UnitId
  status : WaitlistStatus
  convertedContractId : Option ContractId
  deriving DecidableEq

/-- A customer under its e-mail (lower case, without blanks); a deleted row stays as a mark. -/
structure BookingCustomer where
  email : String
  removed : Bool
  deriving DecidableEq

structure BookingContract where
  unitId : UnitId
  customerId : CustomerId
  waitlistEntryId : Option WaitlistEntryId
  firstPaymentDeadline : Option Instant
  deriving DecidableEq

inductive BookingLock
  | unitType (id : UnitTypeId)
  | unit (id : UnitId)
  deriving DecidableEq

/-- `contracts` are the drafts of the bookings; `tenancies` are the customers with an active contract in a facility. -/
structure BookingDb where
  units : Table UnitId BookableUnit
  reservations : List UnitReservation
  entries : Table WaitlistEntryId HoldingEntry
  customers : Table CustomerId BookingCustomer
  tenancies : List (CustomerId × FacilityId)
  contracts : Table ContractId BookingContract
  locks : List BookingLock

/-- What `createBooking` takes of its input; the hold token as the entry that it is of. -/
structure CreateBookingInput where
  facilityId : FacilityId
  unitTypeId : UnitTypeId
  email : String
  holdToken : Option WaitlistEntryId
  deriving DecidableEq

inductive BookingRequest
  | createBooking (input : CreateBookingInput)
  | bookForExistingCustomer (customerId : CustomerId) (unitId : UnitId) (couponCode : Bool)

structure BookingHold where
  id : WaitlistEntryId
  heldUnitId : UnitId
  deriving DecidableEq

inductive BookingCall
  | findingHold (input : CreateBookingInput)
  | choosing (input : CreateBookingInput) (hold : Option BookingHold)
  | reserving (input : CreateBookingInput) (hold : Option BookingHold) (unitId : UnitId)
  | findingCustomer (customerId : CustomerId) (unitId : UnitId) (couponCode : Bool)
  | checking (customerId : CustomerId) (unitId : UnitId) (couponCode : Bool)
  | reservingUnit (customerId : CustomerId) (unitId : UnitId) (couponCode : Bool)
  | readingOffers (customerId : CustomerId) (unitId : UnitId) (couponCode : Bool)
  | creating (unitId : UnitId) (customerId : CustomerId) (hold : Option WaitlistEntryId) (customerCreated : Bool)
  | dating (id : ContractId)
  | releasing (unitId : UnitId) (created : Option CustomerId)
  | deleting (customerId : CustomerId)
  deriving DecidableEq

/-- When a step is made, whether the unit has an offer, whether the request ends there instead (an error that nothing
catches, or a stop of the process), and whether a transaction that is guarded fails. -/
structure BookingInput where
  moment : Instant
  offer : Bool
  stops : Bool
  fails : Bool
  deriving DecidableEq

def enterBooking (_ : BookingDb) : BookingRequest → Option BookingCall
  | .createBooking input => some (.findingHold input)
  | .bookForExistingCustomer customerId unitId couponCode => some (.findingCustomer customerId unitId couponCode)

def bookingHoldMs : ℤ := 72 * 60 * 60 * 1000

/-- `findHold`, for an entry of the facility and the type that are booked. -/
def BookingDb.findHold (db : BookingDb) (input : CreateBookingInput) : Option BookingHold :=
  input.holdToken.bind fun id => (db.entries.find id).bind fun entry =>
    if entry.status = .notified ∧ entry.facilityId = input.facilityId ∧ entry.unitTypeId = input.unitTypeId then
      entry.heldUnitId.map (⟨id, ·⟩)
    else none

/-- The unit that a booking takes: the one held for it, or the cheapest that is available and not reserved. -/
def BookingDb.chooseUnit (db : BookingDb) (input : CreateBookingInput) (hold : Option BookingHold) (now : Instant) :
    Option UnitId :=
  let candidates := db.units.rows.filter fun q => q.2.onSale && q.2.facilityId = input.facilityId &&
    q.2.unitTypeId = input.unitTypeId && match hold with
      | some hold => q.1 = hold.heldUnitId && q.2.status = .reserved
      | none => q.2.status = .available && !db.reservations.any fun r => r.unitId = q.1 && now < r.validUntil
  (candidates.argmin fun q => toLex (q.2.basePriceMonthly, q.2.code)).map Prod.fst

def BookingDb.lock (db : BookingDb) (lock : BookingLock) : BookingDb := { db with locks := lock :: db.locks }

def BookingDb.unlock (db : BookingDb) (lock : BookingLock) : BookingDb := { db with locks := db.locks.erase lock }

def BookingDb.setUnitStatus (db : BookingDb) (id : UnitId) (status : UnitStatus) : BookingDb :=
  { db with units := db.units.modify id fun unit => { unit with status } }

def BookingCall.lock : BookingCall → Option BookingLock
  | .reserving input .. => some (.unitType input.unitTypeId)
  | .reservingUnit _ unitId _ => some (.unit unitId)
  | _ => none

def BookingDb.customerOf (db : BookingDb) (email : String) : BookingDb × CustomerId × Bool :=
  match db.customers.rows.find? fun q => q.2.email = email && !q.2.removed with
  | some q => (db, q.1, false)
  | none => ({ db with customers := db.customers.push ⟨email, false⟩ }, db.customers.nextKey, true)

/-- Whether the transaction of `ContractsService.create` commits: not without its customer. -/
def BookingDb.creates (db : BookingDb) (customerId : CustomerId) (input : BookingInput) : Bool :=
  !input.fails && (db.customers.find customerId).any (!·.removed)

def BookingDb.create (db : BookingDb) (unitId : UnitId) (customerId : CustomerId) (hold : Option WaitlistEntryId) :
    BookingDb :=
  { db with
    contracts := db.contracts.push ⟨unitId, customerId, hold, none⟩
    entries := match hold with
      | some id => db.entries.modify id fun entry =>
        if entry.status = .waiting ∨ entry.status = .notified then
          { entry with status := .converted, convertedContractId := some db.contracts.nextKey }
        else entry
      | none => db.entries }

def afterRefusal (unitId : UnitId) (customerId : CustomerId) (hold : Option WaitlistEntryId) (customerCreated : Bool) :
    Option BookingCall :=
  if hold.isNone then some (.releasing unitId (if customerCreated then some customerId else none))
  else if customerCreated then some (.deleting customerId) else none

/-- A statement or a transaction; `none` while another holds the lock. -/
def runBooking (db : BookingDb) (input : BookingInput) : BookingCall → Option (BookingDb × Option BookingCall)
  | .findingHold booking => some (db, some (.choosing booking (db.findHold booking)))
  | .choosing booking hold =>
    if .unitType booking.unitTypeId ∈ db.locks then none
    else match db.chooseUnit booking hold input.moment with
      | some unitId => some (db.lock (.unitType booking.unitTypeId), some (.reserving booking hold unitId))
      | none => some (db, none)
  | .reserving booking hold unitId =>
    let reserved := if hold.isNone then db.setUnitStatus unitId .reserved else db
    let (written, customerId, customerCreated) := reserved.customerOf booking.email
    some (written.unlock (.unitType booking.unitTypeId),
      some (.creating unitId customerId (hold.map BookingHold.id) customerCreated))
  | .findingCustomer customerId unitId couponCode =>
    some (db, if (db.customers.find customerId).any (!·.removed) then some (.checking customerId unitId couponCode)
      else none)
  | .checking customerId unitId couponCode =>
    if .unit unitId ∈ db.locks then none
    else if (db.units.find unitId).any fun unit => unit.onSale && unit.status = .available &&
        db.tenancies.contains (customerId, unit.facilityId) then
      some (db.lock (.unit unitId), some (.reservingUnit customerId unitId couponCode))
    else some (db, none)
  | .reservingUnit customerId unitId couponCode =>
    some ((db.setUnitStatus unitId .reserved).unlock (.unit unitId), some (.readingOffers customerId unitId couponCode))
  | .readingOffers customerId unitId couponCode =>
    some (db, some (if input.offer && couponCode then .releasing unitId none
      else .creating unitId customerId none false))
  | .creating unitId customerId hold customerCreated =>
    if db.creates customerId input then
      some (db.create unitId customerId hold, some (.dating db.contracts.nextKey))
    else some (db, afterRefusal unitId customerId hold customerCreated)
  | .dating id =>
    some ({ db with
      contracts := db.contracts.modify id fun c =>
        { c with firstPaymentDeadline := some (input.moment + bookingHoldMs) } }, none)
  -- An error of the release is ignored.
  | .releasing unitId created =>
    some (if input.fails then db
      else { db with
        units := db.units.modify unitId fun unit =>
          if unit.status = .reserved then { unit with status := .available } else unit },
      created.map .deleting)
  -- A customer with a contract cannot be deleted; the error is ignored.
  | .deleting customerId =>
    some (if input.fails || db.contracts.values.any (·.customerId = customerId) then db
      else { db with customers := db.customers.modify customerId fun c => { c with removed := true } }, none)

def stepBooking (db : BookingDb) (call : BookingCall) (input : BookingInput) :
    Option (BookingDb × Option BookingCall) :=
  if input.stops then some (call.lock.elim db db.unlock, none) else runBooking db input call

def bookingSystem : System BookingDb BookingCall BookingRequest BookingInput where
  enter := enterBooking
  next := stepBooking

end StorageOS
