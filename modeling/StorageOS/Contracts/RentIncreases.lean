import StorageOS.Coupons.Quote
import StorageOS.Saas.InvoiceSteps
import StorageOS.Saas.Subscriptions

/-! Batches of rent increases of a tenant (`rent-increases/rent-increases.service.ts`). A batch takes the contracts
and their prices when it is created, and writes the new prices when it is applied, months later. What a transaction
writes is seen by the others when it commits. -/

namespace StorageOS

open Processes

abbrev RentIncreaseId := ℕ

abbrev RentIncreaseItemId := ℕ

/-- What the increases read of a contract and of its unit; the price in cents. -/
structure RentedContract where
  status : ContractStatus
  priceMonthly : ℤ
  signedAt : Option Instant
  deletedAt : Option Instant
  preOpening : Bool
  preOpeningStartedAt : Option Instant
  facilityId : FacilityId
  unitTypeId : UnitTypeId
  deriving DecidableEq

structure RentIncreaseScope where
  minMonthsSinceSigned : ℕ
  facilityId : Option FacilityId
  unitTypeId : Option UnitTypeId
  deriving DecidableEq

inductive RentIncreaseType
  | percentage
  | fixed
  deriving DecidableEq

inductive RentIncreaseStatus
  | scheduled
  | applied
  | cancelled
  deriving DecidableEq

inductive RentIncreaseItemStatus
  | pending
  | applied
  | skipped
  deriving DecidableEq

structure CreateRentIncreaseInput where
  scope : RentIncreaseScope
  increaseType : RentIncreaseType
  increaseValue : ℚ
  effectiveDate : Date
  positive : 0 < increaseValue

structure RentIncrease where
  effectiveDate : Date
  status : RentIncreaseStatus
  chosenAt : Instant
  deriving DecidableEq

structure RentIncreaseItem where
  rentIncreaseId : RentIncreaseId
  contractId : ContractId
  oldPrice : ℤ
  newPrice : ℤ
  status : RentIncreaseItemStatus
  appliedAt : Option Instant
  deriving DecidableEq

structure RentIncreasePolicy where
  maxAnnualPct : ℚ
  minMonthsBetween : ℕ
  deriving DecidableEq

structure PriceIncrease where
  itemId : RentIncreaseItemId
  rentIncreaseId : RentIncreaseId
  contractId : ContractId
  moment : Instant
  before : ℤ
  after : ℤ
  deriving DecidableEq

/-- The increases made and the batches whose cancellation was committed are history. -/
structure RentDb where
  contracts : Table ContractId RentedContract
  batches : Table RentIncreaseId RentIncrease
  items : Table RentIncreaseItemId RentIncreaseItem
  increases : List PriceIncrease
  cancellations : List RentIncreaseId
  clock : Instant

/-! ### Prices -/

def computeNewPrice (oldPrice : ℤ) (increaseType : RentIncreaseType) (value maxAnnualPct : ℚ) : ℤ :=
  let old := euros oldPrice
  let next := match increaseType with
    | .percentage => old * (1 + value / 100)
    | .fixed => old + value
  round2 (if maxAnnualPct > 0 ∧ next > old then min next (old * (1 + maxAnnualPct / 100)) else next)

/-- `setMonth` with some months less: the same time of the same day, where a day that the month does not have
runs into the next. -/
def monthsBefore (moment : Instant) (months : ℕ) : Instant :=
  BillingJobs.addMonths (moment / saasDayMs) (-months) * saasDayMs + moment % saasDayMs

/-! ### Contracts of a batch -/

/-- The contracts with an increase within the months of the policy. -/
def RentDb.recentlyRaised (db : RentDb) (policy : RentIncreasePolicy) (now : Instant) : List ContractId :=
  if policy.minMonthsBetween = 0 then []
  else (db.items.values.filter fun item => item.status = .applied &&
    item.appliedAt.any (monthsBefore now policy.minMonthsBetween ≤ ·)).map RentIncreaseItem.contractId

def RentIncreaseScope.selects (scope : RentIncreaseScope) (now : Instant) (c : RentedContract) : Bool :=
  c.deletedAt = none && (c.status = .active || c.status = .ending) &&
    c.signedAt.any (fun signed => scope.minMonthsSinceSigned = 0 ||
      signed ≤ monthsBefore now scope.minMonthsSinceSigned) &&
    !(c.preOpening && c.preOpeningStartedAt = none) &&
    scope.facilityId.all (c.facilityId = ·) && scope.unitTypeId.all (c.unitTypeId = ·)

def RentDb.affected (db : RentDb) (policy : RentIncreasePolicy) (input : CreateRentIncreaseInput) (now : Instant)
    (recentlyRaised : List ContractId) : List (ContractId × ℤ × ℤ) :=
  (db.contracts.rows.filter fun q => input.scope.selects now q.2 && !recentlyRaised.contains q.1).map fun q =>
    (q.1, q.2.priceMonthly,
      computeNewPrice q.2.priceMonthly input.increaseType input.increaseValue policy.maxAnnualPct)

/-! ### Requests -/

inductive RentRequest
  | create (input : CreateRentIncreaseInput)
  | apply (id : RentIncreaseId)
  | cancel (id : RentIncreaseId)
  | applyDue (reference : Date)
  | changePrice (contractId : ContractId) (priceMonthly : ℕ)
  | changeStatus (contractId : ContractId) (status : ContractStatus)

/-- An item as `apply` reads it, and whether its contract is active or ending. -/
structure ItemRead where
  id : RentIncreaseItemId
  item : RentIncreaseItem
  live : Bool
  deriving DecidableEq

inductive RentCall
  | excluding (input : CreateRentIncreaseInput)
  | listing (input : CreateRentIncreaseInput) (chosenAt : Instant) (recentlyRaised : List ContractId)
  | creating (input : CreateRentIncreaseInput) (chosenAt : Instant) (affected : List (ContractId × ℤ × ℤ))
  /-- `apply` of the first of the batches, and of the others after it. -/
  | finding (batches : List RentIncreaseId)
  | reading (id : RentIncreaseId) (later : List RentIncreaseId)
  | writing (id : RentIncreaseId) (items : List ItemRead) (later : List RentIncreaseId)
  | cancelling (id : RentIncreaseId)
  | changingPrice (contractId : ContractId) (priceMonthly : ℕ)
  | changingStatus (contractId : ContractId) (status : ContractStatus)

/-- When a step is made, whether the request ends there instead, and whether its transaction fails. -/
structure RentInput where
  moment : Instant
  stops : Bool
  fails : Bool
  deriving DecidableEq

def enterRent (db : RentDb) : RentRequest → Option RentCall
  | .create input => some (.excluding input)
  | .apply id => some (.finding [id])
  | .cancel id => ((db.batches.find id).filter (·.status = .scheduled)).map fun _ => .cancelling id
  | .applyDue reference => some (.finding (((db.batches.rows.filter fun q =>
      q.2.status = .scheduled && q.2.effectiveDate ≤ reference).take 200).map Prod.fst))
  | .changePrice contractId priceMonthly => some (.changingPrice contractId priceMonthly)
  | .changeStatus contractId status => some (.changingStatus contractId status)

def RentDb.addItems (items : Table RentIncreaseItemId RentIncreaseItem) (id : RentIncreaseId)
    (affected : List (ContractId × ℤ × ℤ)) : Table RentIncreaseItemId RentIncreaseItem :=
  affected.foldl (fun items a => items.push ⟨id, a.1, a.2.1, a.2.2, .pending, none⟩) items

/-- The pending items of a batch, and whether their contracts go on. -/
def RentDb.pendingItems (db : RentDb) (id : RentIncreaseId) : List ItemRead :=
  (db.items.rows.filter fun q => q.2.rentIncreaseId = id && q.2.status = .pending).map fun q =>
    ⟨q.1, q.2, (db.contracts.find q.2.contractId).any fun c => c.status = .active || c.status = .ending⟩

def RentIncreaseItem.applied (now : Instant) (item : RentIncreaseItem) : RentIncreaseItem :=
  { item with status := .applied, appliedAt := some now }

def RentIncreaseItem.skipped (item : RentIncreaseItem) : RentIncreaseItem := { item with status := .skipped }

/-- What `apply` writes for an item. -/
def RentDb.applyItem (db : RentDb) (read : ItemRead) : RentDb :=
  if read.live then
    { db with
      contracts := db.contracts.modify read.item.contractId fun c => { c with priceMonthly := read.item.newPrice }
      items := db.items.modify read.id (.applied db.clock)
      increases := db.increases ++ ((db.contracts.find read.item.contractId).map fun c =>
        ⟨read.id, read.item.rentIncreaseId, read.item.contractId, db.clock, c.priceMonthly,
          read.item.newPrice⟩).toList }
  else { db with items := db.items.modify read.id .skipped }

def RentDb.setBatchStatus (db : RentDb) (id : RentIncreaseId) (status : RentIncreaseStatus) : RentDb :=
  { db with batches := db.batches.modify id fun row => { row with status } }

/-- A statement or a transaction, made at the time of the database. -/
def runRent (policy : RentIncreasePolicy) (db : RentDb) (fails : Bool) : RentCall → RentDb × Option RentCall
  | .excluding input => (db, some (.listing input db.clock (db.recentlyRaised policy db.clock)))
  | .listing input chosenAt recentlyRaised =>
    let affected := db.affected policy input db.clock recentlyRaised
    (db, if affected.isEmpty then none else some (.creating input chosenAt affected))
  | .creating input chosenAt affected =>
    let id := db.batches.nextKey
    ({ db with
      batches := db.batches.push ⟨input.effectiveDate, .scheduled, chosenAt⟩
      items := RentDb.addItems db.items id affected }, none)
  | .finding [] => (db, none)
  -- A batch that is cancelled raises an error, which `applyDue` catches.
  | .finding (id :: later) =>
    (db, some (if (db.batches.find id).any (·.status ≠ .cancelled) then .reading id later else .finding later))
  | .reading id later => (db, some (.writing id (db.pendingItems id) later))
  | .writing id items later =>
    (if fails then db else (items.foldl RentDb.applyItem db).setBatchStatus id .applied, some (.finding later))
  | .cancelling id =>
    ({ db.setBatchStatus id .cancelled with cancellations := db.cancellations ++ [id] }, none)
  | .changingPrice contractId priceMonthly =>
    ({ db with contracts := db.contracts.modify contractId fun c => { c with priceMonthly } }, none)
  | .changingStatus contractId status =>
    ({ db with contracts := db.contracts.modify contractId fun c => { c with status } }, none)

def stepRent (policy : RentIncreasePolicy) (db : RentDb) (call : RentCall) (input : RentInput) :
    Option (RentDb × Option RentCall) :=
  if input.moment < db.clock then none
  else
    let db := { db with clock := input.moment }
    if input.stops then some (db, none) else some (runRent policy db input.fails call)

def rentSystem (policy : RentIncreasePolicy) : System RentDb RentCall RentRequest RentInput where
  enter := enterRent
  next := stepRent policy

end StorageOS
