import StorageOS.Contracts.Units

/-! The transactions of contracts. Each request has read its contract before its transaction begins,
decides on what it read, and updates the stored contract by its id. -/

namespace StorageOS

structure RentalClock where
  now : Instant
  today : Date
  deriving DecidableEq

def Tenancy.withoutScheduledMove (c : Tenancy) : Tenancy :=
  { c with
    scheduledUnitId := none
    scheduledUnitDate := none
    scheduledUnitPrice := none
    scheduledUnitProrate := false }

/-- Writes the columns of the end of a contract as a request has computed them. -/
def Tenancy.withEnd (written : Contract) (c : Tenancy) : Tenancy :=
  { c with
    status := written.status
    endDate := written.endDate
    endDateBeforeEnding := written.endDateBeforeEnding }

def takenBySignature : Failure :=
  conflict "unit_not_available" "El trastero ya tiene un contrato activo"

def takenByMove : Failure :=
  conflict "unit_not_available" "El trastero de destino ya tiene un contrato activo"

def unitNotFound : Failure := notFound "unit_not_found" "Trastero no encontrado"

def moveReservedForOther : Failure := conflict "unit_reserved_for_other"
  "El trastero de destino está reservado para otro inquilino"

def preOpeningSamePrice (message : String) : Failure :=
  badRequest "pre_opening_same_price" message

/-! ### Creating a contract -/

structure CreateContractInput where
  customerId : CustomerId
  unitId : UnitId
  reservationId : Option ReservationId
  waitlistEntryId : Option WaitlistEntryId
  startDate : Date
  endDate : Option Date
  billingIntervalMonths : ℤ
  firstPaymentMonths : ℤ
  prepayDiscountPct : ℚ
  priceMonthly : ℤ
  discountAmount : ℤ
  depositAmount : ℤ
  insurancePrice : Option ℤ
  autoRenew : Bool
  cancellationNoticeDays : ℤ
  deriving DecidableEq

def reservationNotConvertible : Failure := badRequest "reservation_not_convertible"
  "Solo se pueden convertir reservas pendientes o confirmadas"

def reservationMismatch : Failure := badRequest "reservation_mismatch"
  "La reserva es de otro trastero o de otro inquilino"

/-- The reservation a contract is made from, which has to be of its unit and its tenant. -/
def readReservation (input : CreateContractInput) (db : RentalDb) :
    Outcome (Option (ReservationId × Reservation)) :=
  match input.reservationId with
  | none => .ok none
  | some id => do
    let r ← orFail ((db.reservations.find id).filter (·.isOpen)) reservationNotConvertible
    refuseIf (r.unitId ≠ input.unitId ∨ (r.customerId.isSome ∧ r.customerId ≠ some input.customerId))
      reservationMismatch
    .ok (some (id, r))

def draftContract (today : Date) (customer : RentalCustomer) (facility : Facility)
    (input : CreateContractInput) : Tenancy :=
  let deadline := if facility.preOpening then
    some (addMonths today facility.preOpeningMaxMonths) else none
  let interval := if facility.preOpening then 1 else input.billingIntervalMonths
  { status := .draft
    deletedAt := none
    customerIsTest := customer.isTest
    preOpening := facility.preOpening
    preOpeningStartedAt := none
    startDate := match deadline with
      | some d => facility.openingDate.getD d
      | none => input.startDate
    endDate := input.endDate
    endDateBeforeEnding := none
    termMonths := none
    autoRenew := input.autoRenew
    cancellationNoticeDays := input.cancellationNoticeDays
    billingStartsOn := none
    billingIntervalMonths := interval
    firstPaymentMonths := if facility.preOpening || 1 < interval then 1 else input.firstPaymentMonths
    prepayDiscountPct := if 1 < interval then input.prepayDiscountPct else 0
    priceMonthly := input.priceMonthly
    discountAmount := input.discountAmount
    insurancePrice := input.insurancePrice
    depositAmount := if customer.depositExempt then 0 else input.depositAmount
    freeMonthsRemaining := 0
    pendingCreditAmount := 0
    pendingCreditReason := none
    coupon := none
    customerId := input.customerId
    unitId := input.unitId
    firstPaymentDeadline := none
    preOpeningDeadline := deadline
    preOpeningDateConfirmed := facility.preOpening && facility.openingDate.isSome
    depositStatus := .none
    scheduledUnitId := none
    scheduledUnitDate := none
    scheduledUnitPrice := none
    scheduledUnitProrate := false }

/-- Closes a waitlist entry with a contract, on the unit kept for it or on another one. -/
def RentalDb.closeEntry (db : RentalDb) (id : WaitlistEntryId) (contractId : ContractId)
    (onOther : Bool) : RentalDb :=
  { db with
    waitlist := db.waitlist.modify id fun e => { e with
      status := .converted
      convertedContractId := some contractId
      heldUnitId := if onOther then none else e.heldUnitId } }

/-- Closes the waitlist entry the contract answers. The unit kept for the entry stays with the
contract when it is the same, and is released when it is another one. -/
def convertWaitlistEntry (now : Instant) (contractId : ContractId) (input : CreateContractInput)
    (db : RentalDb) : RentalDb :=
  match input.waitlistEntryId with
  | none => db
  | some id =>
    match (db.waitlist.find id).filter (·.isOpen) with
    | none => db
    | some entry =>
      match entry.heldUnitId.filter (· ≠ input.unitId) with
      | some unitId =>
        releaseReservedUnit now { unitId := unitId } (db.closeEntry id contractId true)
      | none => db.closeEntry id contractId false

def SignalInvoice.baseCents (invoice : SignalInvoice) : ℤ :=
  (invoice.items.map fun it => it.total - it.taxAmount).sum

structure SignalCredit where
  amount : ℤ
  reason : String
  deriving DecidableEq

def signalCredit (db : RentalDb) (invoiceId : Option InvoiceId) : Option SignalCredit := do
  let id ← invoiceId
  let signal ← (db.invoices.find id).filter fun i => i.status = .paid
  if signal.baseCents ≤ 0 then none
  else some ⟨signal.baseCents, "señal " ++ signal.invoiceNumber⟩

def Reservation.convertedTo (contractId : ContractId) (r : Reservation) : Reservation :=
  { r with status := .converted, convertedContractId := some contractId }

def RentalDb.markConverted (db : RentalDb) (id : ReservationId) (contractId : ContractId) :
    RentalDb :=
  { db with reservations := db.reservations.modify id (Reservation.convertedTo contractId) }

def RentalDb.setCredit (db : RentalDb) (contractId : ContractId) (credit : SignalCredit) :
    RentalDb :=
  { db with
    contracts := db.contracts.modify contractId fun c => { c with
      pendingCreditAmount := credit.amount
      pendingCreditReason := some credit.reason } }

/-- Marks the reservation converted and takes a signal that was read paid off the new contract. -/
def convertReservation (contractId : ContractId) (reservation : Option (ReservationId × Reservation))
    (credit : Option SignalCredit) (db : RentalDb) : RentalDb :=
  match reservation with
  | none => db
  | some (id, _) =>
    match credit with
    | none => db.markConverted id contractId
    | some credit => (db.markConverted id contractId).setCredit contractId credit

/-- What the transaction of a new contract reads before it writes. -/
structure ContractReads where
  customer : RentalCustomer
  facility : Facility
  reservation : Option (ReservationId × Reservation)
  deriving DecidableEq

def readForContract (input : CreateContractInput) (db : RentalDb) : Outcome ContractReads := do
  refuseIf (∃ e ∈ input.endDate, e < input.startDate) (badRequest "invalid_end_date"
    "La fecha de fin no puede ser anterior a la de inicio")
  refuseIf (input.priceMonthly < input.discountAmount) (badRequest "discount_too_high"
    "El descuento no puede ser mayor que la cuota")
  let customer ← orFail ((db.customers.find input.customerId).filter (·.deletedAt.isNone))
    (notFound "customer_not_found" "Inquilino no encontrado")
  let unit ← orFail (db.units.find input.unitId) unitNotFound
  let facility ← orFail ((db.facilities.find unit.facilityId).filter (·.deletedAt.isNone))
    unitNotFound
  let reservation ← readReservation input db
  .ok ⟨customer, facility, reservation⟩

/-- The credit of the reservation that is converted, read in the same transaction. -/
def ContractReads.credit (reads : ContractReads) (db : RentalDb) : Option SignalCredit :=
  reads.reservation.bind fun r => signalCredit db r.2.depositInvoiceId

def writeContract (clock : RentalClock) (input : CreateContractInput) (reads : ContractReads)
    (credit : Option SignalCredit) (db : RentalDb) : RentalDb :=
  let contractId := db.contracts.nextKey
  let inserted : RentalDb := { db with
    contracts := db.contracts.push
      (draftContract clock.today reads.customer reads.facility input) }
  convertReservation contractId reads.reservation credit
    (convertWaitlistEntry clock.now contractId input inserted)

def create (clock : RentalClock) (input : CreateContractInput) (db : RentalDb) :
    Outcome RentalDb := do
  let reads ← readForContract input db
  .ok (writeContract clock input reads (reads.credit db) db)

/-! ### Signing, ending and cancelling -/

/-- The columns that the signature writes. A reservation before the opening starts when the facility
opens, and the deposit of the contract is held from now on. -/
def Tenancy.signed (existing : Tenancy) (facility : Facility) (c : Tenancy) : Tenancy :=
  { c with
    status := .active
    preOpeningDateConfirmed := if existing.isPendingPreOpening then facility.openingDate.isSome
      else c.preOpeningDateConfirmed
    startDate := if existing.isPendingPreOpening then
        facility.openingDate.getD (existing.preOpeningDeadline.getD existing.startDate)
      else c.startDate
    depositStatus := if 0 < existing.depositAmount ∧ existing.depositStatus = .none then .held
      else c.depositStatus }

/-- The reservations of the tenant on the unit become the contract. -/
def RentalDb.convertOwnReservations (db : RentalDb) (id : ContractId) (existing : Tenancy) :
    RentalDb :=
  { db with
    reservations := db.reservations.updateMany
      (fun r => r.2.unitId = existing.unitId && r.2.isOpen &&
        r.2.customerId = some existing.customerId)
      (Reservation.convertedTo id) }

def sign (clock : RentalClock) (id : ContractId) (existing : Tenancy) (db : RentalDb) :
    Outcome RentalDb := do
  existing.status.assertTransition .active
  let unit ← orFail (db.units.find existing.unitId) (notFound "unit_not_found" "Unit perdida")
  let facility ← orMissing (db.facilities.find unit.facilityId)
  refuseIf facility.deletedAt.isSome (conflict "facility_deleted"
    "No se puede firmar: el local de este trastero se ha borrado.")
  refuseIf (unit.status ≠ .available ∧ unit.status ≠ .reserved) (conflict "unit_not_available"
    ("No se puede firmar: el trastero esta en estado " ++ unit.status.name))
  refuseIf (db.reservations.rows.any fun r => r.2.unitId = existing.unitId && r.2.isOpen &&
      r.2.customerId ≠ some existing.customerId) (conflict "unit_reserved_for_other"
    "Este trastero está reservado para otro inquilino. Cancela esa reserva antes de firmar.")
  refuseIf (unit.status = .reserved ∧
      unitHeldByOther clock.now (existing.holdQuery id existing.unitId) db)
    (conflict "unit_reserved_for_other"
    "Este trastero está retenido por la reserva de otro inquilino. Elige otro o espera a que caduque.")
  let signed ← (db.convertOwnReservations id existing).updateContract id takenBySignature
    (existing.signed facility)
  .ok (signed.setUnitStatus existing.unitId
    (if existing.isPendingPreOpening then .reserved else .occupied))

def Tenancy.ended (endDate : Date) (c : Tenancy) : Tenancy :=
  { c with status := .ended, endDate := some endDate }.withoutScheduledMove

def Tenancy.cancelled (c : Tenancy) : Tenancy :=
  { c with status := .cancelled }.withoutScheduledMove

/-- Releases the unit of a scheduled move that will not take place. -/
def releaseScheduledUnit (now : Instant) (id : ContractId) (existing : Tenancy) (db : RentalDb) :
    RentalDb :=
  match existing.scheduledUnitId with
  | none => db
  | some unitId => releaseReservedUnit now { unitId := unitId, contractId := some id } db

def Tenancy.effectiveEnd (existing : Tenancy) (today : Date) : Date :=
  match existing.endDate with
  | some e => if today < e then today else e
  | none => today

def endContract (clock : RentalClock) (id : ContractId) (existing : Tenancy) (db : RentalDb) :
    Outcome RentalDb := do
  existing.status.assertTransition .ended
  refuseIf existing.isPendingPreOpening preOpeningNotStarted
  let ended ← db.updateContract id uniqueConstraint
    (Tenancy.ended (existing.effectiveEnd clock.today))
  let unit ← orMissing (ended.units.find existing.unitId)
  .ok (releaseScheduledUnit clock.now id existing
    (if unit.status = .occupied then ended.setUnitStatus existing.unitId .available else ended))

/-- The contract held its unit: it was in force, or it was given the unit before it was signed. -/
def heldUnit (db : RentalDb) (id : ContractId) (existing : Tenancy) : Bool :=
  existing.isLive || existing.firstPaymentDeadline.isSome || existing.preOpening ||
    (db.reservations.rows.any fun r => r.2.convertedContractId = some id) ||
    (db.waitlist.rows.any fun e => e.2.convertedContractId = some id)

def cancel (clock : RentalClock) (id : ContractId) (existing : Tenancy) (db : RentalDb) :
    Outcome RentalDb := do
  existing.status.assertTransition .cancelled
  let cancelled ← db.updateContract id uniqueConstraint Tenancy.cancelled
  let unit ← orMissing (cancelled.units.find existing.unitId)
  let releasable :=
    (unit.status = .reserved && heldUnit cancelled id existing &&
      !unitHeldByOther clock.now { unitId := existing.unitId, contractId := some id }
        cancelled) ||
    (existing.isLive && unit.status = .occupied)
  .ok (releaseScheduledUnit clock.now id existing
    (if releasable then cancelled.setUnitStatus existing.unitId .available else cancelled))

/-! ### Moving to another unit -/

structure ChangeUnitInput where
  newUnitId : UnitId
  newPrice : Option ℤ
  prorate : Bool
  effectiveDate : Option Date
  deriving DecidableEq

def Tenancy.withScheduledMove (input : ChangeUnitInput) (date : Date) (c : Tenancy) : Tenancy :=
  { c with
    scheduledUnitId := some input.newUnitId
    scheduledUnitDate := some date
    scheduledUnitPrice := input.newPrice
    scheduledUnitProrate := input.prorate }

def Tenancy.moved (input : ChangeUnitInput) (c : Tenancy) : Tenancy :=
  { c with
    unitId := input.newUnitId
    priceMonthly := input.newPrice.getD c.priceMonthly }.withoutScheduledMove

def RentalDb.findOpenUnit (db : RentalDb) (unitId : UnitId) : Option StorageUnit :=
  (db.units.find unitId).filter fun u =>
    (db.facilities.find u.facilityId).any fun f => f.deletedAt.isNone

def scheduleMove (clock : RentalClock) (id : ContractId) (existing : Tenancy) (input : ChangeUnitInput)
    (date : Date) (db : RentalDb) : Outcome RentalDb := do
  refuseIf existing.scheduledUnitId.isSome (conflict "move_already_scheduled"
    "Este contrato ya tiene un traslado programado: anúlalo antes")
  let unit ← orFail (db.findOpenUnit input.newUnitId) unitNotFound
  refuseIf (unit.status ≠ .available) (badRequest "unit_not_available"
    "El trastero de destino no está disponible")
  refuseIf (unitHeldByOther clock.now (existing.holdQuery id input.newUnitId) db)
    moveReservedForOther
  (db.setUnitStatus input.newUnitId .reserved).updateContract id uniqueConstraint
    (Tenancy.withScheduledMove input date)

def moveNow (clock : RentalClock) (id : ContractId) (existing : Tenancy) (input : ChangeUnitInput)
    (db : RentalDb) : Outcome RentalDb := do
  let fromSchedule := existing.scheduledUnitId = some input.newUnitId
  let newUnit ← orFail (db.findOpenUnit input.newUnitId) unitNotFound
  refuseIf (newUnit.status ≠ .available ∧ ¬(fromSchedule ∧ newUnit.status = .reserved))
    (badRequest "unit_not_available" "El trastero de destino no está disponible")
  refuseIf (unitHeldByOther clock.now (existing.holdQuery id input.newUnitId) db)
    moveReservedForOther
  let oldUnit ← orMissing (db.units.find existing.unitId)
  refuseIf (existing.isPendingPreOpening ∧ (newUnit.facilityId ≠ oldUnit.facilityId ∨
      newUnit.basePriceMonthly ≠ existing.priceMonthly)) (preOpeningSamePrice
    "Antes de la apertura solo se puede cambiar a otro trastero del mismo local y del mismo precio")
  let released := if oldUnit.status = .occupied ∨ oldUnit.status = .reserved then
    db.setUnitStatus existing.unitId .available else db
  (released.setUnitStatus input.newUnitId
      (if existing.isPendingPreOpening then .reserved else .occupied)).updateContract id takenByMove
    (Tenancy.moved input)

def changeUnit (clock : RentalClock) (id : ContractId) (existing : Tenancy) (input : ChangeUnitInput)
    (db : RentalDb) : Outcome RentalDb := do
  refuseIf (existing.status ≠ .active ∧ existing.status ≠ .ending) (badRequest "contract_not_active"
    "Solo se puede trasladar un contrato activo")
  refuseIf (input.newUnitId = existing.unitId) (badRequest "same_unit"
    "El trastero de destino es el mismo")
  refuseIf (existing.isPendingPreOpening ∧ (input.newPrice.isSome ∨ input.prorate))
    (preOpeningSamePrice "En una reserva antes de la apertura el precio no cambia")
  match input.effectiveDate.filter (clock.today < ·) with
  | some date => do
    refuseIf existing.isPendingPreOpening
      (preOpeningSamePrice "Antes de la apertura el cambio de trastero es inmediato")
    scheduleMove clock id existing input date db
  | none => moveNow clock id existing input db

def cancelScheduledMove (clock : RentalClock) (id : ContractId) (existing : Tenancy) (db : RentalDb) :
    Outcome RentalDb :=
  (releaseScheduledUnit clock.now id existing db).updateContract id uniqueConstraint
    Tenancy.withoutScheduledMove

/-! ### The date of the end -/

/-- The end of a contract as renewing writes it: the status only when an end was under way. -/
def Tenancy.renewed (existing : Tenancy) (written : Contract) (c : Tenancy) : Tenancy :=
  { c with
    endDate := written.endDate
    termMonths := written.termMonths
    status := if existing.status = .ending then written.status else c.status
    endDateBeforeEnding := if existing.status = .ending then written.endDateBeforeEnding
      else c.endDateBeforeEnding }

end StorageOS
