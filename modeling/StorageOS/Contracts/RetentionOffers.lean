import StorageOS.Contracts.RentIncreases
import StorageOS.Contracts.Term

/-! Offers to a customer who is moving out (`retention/retention.service.ts`), with the end of its contract
(`ContractsService.end`). Accepting one undoes the move-out and gives a discount for some months, which a daily
job takes back. Each read and each write is a step of its own. -/

namespace StorageOS

open Processes

abbrev RetentionOfferId := ℕ

inductive DiscountReason
  | given (text : String)
  | retention (offerId : RetentionOfferId)
  deriving DecidableEq

/-- What retention reads and writes of a contract; amounts in cents. -/
structure RetainedContract where
  customerId : CustomerId
  status : ContractStatus
  priceMonthly : ℕ
  discountAmount : ℤ
  discountReason : Option DiscountReason
  discountExpiresAt : Option Instant
  endDate : Option Date
  endDateBeforeEnding : Option Date
  endingRequestedAt : Option Instant
  endedAt : Option Instant
  deletedAt : Option Instant
  preOpening : Bool
  preOpeningStartedAt : Option Instant
  deriving DecidableEq

inductive RetentionDiscountType
  | percentage
  | fixed
  deriving DecidableEq

inductive RetentionOfferStatus
  | pending
  | accepted
  | declined
  | expired
  deriving DecidableEq

structure CreateRetentionOfferInput where
  discountType : RetentionDiscountType
  discountValue : ℚ
  months : ℕ
  validDays : Option ℕ
  positive : 0 < discountValue

structure RetentionOffer where
  contractId : ContractId
  customerId : CustomerId
  discountType : RetentionDiscountType
  discountValue : ℚ
  months : ℕ
  status : RetentionOfferStatus
  validUntil : Option Instant
  respondedAt : Option Instant
  positive : 0 < discountValue

/-- An acceptance that was written: the status that it found, and the discount that it gave. -/
structure OfferAcceptance where
  offerId : RetentionOfferId
  contractId : ContractId
  statusBefore : ContractStatus
  discount : ℤ
  expiresAt : Instant
  deriving DecidableEq

/-- The acceptances and refusals written, and the times of the runs of the job that have finished, are
history. -/
structure RetentionDb where
  contracts : Table ContractId RetainedContract
  offers : Table RetentionOfferId RetentionOffer
  acceptances : List OfferAcceptance
  declines : List RetentionOfferId
  reverts : List Instant
  clock : Instant

def discountAmountFor (discountType : RetentionDiscountType) (discountValue : ℚ) (priceMonthly : ℕ) : ℤ :=
  let raw := match discountType with
    | .percentage => euros priceMonthly * discountValue / 100
    | .fixed => discountValue
  min (round2 raw) priceMonthly

def RetainedContract.isPendingPreOpening (c : RetainedContract) : Bool :=
  c.preOpening && c.preOpeningStartedAt = none

inductive RetentionRequest
  | createOffer (contractId : ContractId) (input : CreateRetentionOfferInput)
  | acceptByCustomer (customerId : CustomerId) (offerId : RetentionOfferId)
  | declineByCustomer (customerId : CustomerId) (offerId : RetentionOfferId)
  | finish (contractId : ContractId)
  | revertExpiredDiscounts

inductive RetentionCall
  | offering (contractId : ContractId) (input : CreateRetentionOfferInput)
  | creating (contractId : ContractId) (input : CreateRetentionOfferInput) (customerId : CustomerId)
  | accepting (customerId : CustomerId) (offerId : RetentionOfferId)
  | applying (offerId : RetentionOfferId) (offer : RetentionOffer) (contract : RetainedContract)
  | declining (customerId : CustomerId) (offerId : RetentionOfferId)
  | markingDeclined (offerId : RetentionOfferId)
  | finding (contractId : ContractId)
  | finishing (contractId : ContractId) (endDate : Option Date)
  | listing
  | rechecking (now : Instant) (due : List ContractId)
  | reverting (now : Instant) (id : ContractId) (later : List ContractId)

/-- When a step is made and the day there, whether the request ends there instead, and whether its transaction
fails. -/
structure RetentionInput where
  moment : Instant
  today : Date
  stops : Bool
  fails : Bool
  deriving DecidableEq

def enterRetention (_ : RetentionDb) : RetentionRequest → Option RetentionCall
  | .createOffer contractId input => some (.offering contractId input)
  | .acceptByCustomer customerId offerId => some (.accepting customerId offerId)
  | .declineByCustomer customerId offerId => some (.declining customerId offerId)
  | .finish contractId => some (.finding contractId)
  | .revertExpiredDiscounts => some .listing

def RetentionDb.pendingOffer (db : RetentionDb) (customerId : CustomerId) (offerId : RetentionOfferId) :
    Option RetentionOffer :=
  (db.offers.find offerId).filter fun offer => offer.customerId = customerId && offer.status = .pending

def RetainedContract.discountOver (now : Instant) (c : RetainedContract) : Bool :=
  c.discountExpiresAt.any (· ≤ now) && 0 < c.discountAmount

/-- What `acceptByCustomer` writes to the contract, from what it read of it. -/
def RetainedContract.accept (offerId : RetentionOfferId) (read : RetainedContract) (disc : ℤ) (expiresAt : Instant)
    (today : Date) (c : RetainedContract) : RetainedContract :=
  let resumed := if read.status = .ending then
      { c with
        status := .active
        endDate := endDateAfterCancellingMoveOut today read.endDateBeforeEnding
        endDateBeforeEnding := none
        endingRequestedAt := none }
    else c
  { resumed with
    discountAmount := disc
    discountReason := some (.retention offerId)
    discountExpiresAt := some expiresAt }

def RetainedContract.finish (endDate : Option Date) (now : Instant) (today : Date) (c : RetainedContract) :
    RetainedContract :=
  { c with
    status := .ended
    endedAt := some now
    endDate := some (if endDate.all (today < ·) then today else endDate.getD today) }

def RetainedContract.revert (c : RetainedContract) : RetainedContract :=
  { c with discountAmount := 0, discountReason := none, discountExpiresAt := none }

/-- The transaction of `acceptByCustomer` after its read. -/
def RetentionDb.accept (db : RetentionDb) (offerId : RetentionOfferId) (offer : RetentionOffer)
    (read : RetainedContract) (today : Date) : RetentionDb :=
  let disc := discountAmountFor offer.discountType offer.discountValue read.priceMonthly
  let expiresAt := addMonthsTo db.clock (max 1 offer.months)
  { db with
    contracts := db.contracts.modify offer.contractId (.accept offerId read disc expiresAt today)
    offers := db.offers.modify offerId fun offer => { offer with status := .accepted, respondedAt := some db.clock }
    acceptances := db.acceptances ++ ((db.contracts.find offer.contractId).map fun c =>
      ⟨offerId, offer.contractId, c.status, disc, expiresAt⟩).toList }

/-- A statement or a transaction, made at the time of the database. -/
def runRetention (db : RetentionDb) (input : RetentionInput) : RetentionCall → RetentionDb × Option RetentionCall
  | .offering contractId offered =>
    (db, ((db.contracts.find contractId).filter fun c => c.deletedAt = none && c.status = .ending).map fun c =>
      .creating contractId offered c.customerId)
  | .creating contractId offered customerId =>
    (if input.fails then db
      else { db with
        offers := db.offers.push ⟨contractId, customerId, offered.discountType, offered.discountValue,
          offered.months, .pending, some (db.clock + offered.validDays.getD 7 * saasDayMs), none,
          offered.positive⟩ }, none)
  | .accepting customerId offerId =>
    (db, (db.pendingOffer customerId offerId).bind fun offer =>
      if offer.validUntil.any (· < db.clock) then none
      else (db.contracts.find offer.contractId).map fun c => .applying offerId offer c)
  | .applying offerId offer contract => (if input.fails then db else db.accept offerId offer contract input.today, none)
  | .declining customerId offerId => (db, (db.pendingOffer customerId offerId).map fun _ => .markingDeclined offerId)
  | .markingDeclined offerId =>
    (if input.fails then db
      else { db with
        offers := db.offers.modify offerId fun offer =>
          { offer with status := .declined, respondedAt := some db.clock }
        declines := db.declines ++ [offerId] }, none)
  | .finding contractId =>
    (db, ((db.contracts.find contractId).filter fun c => c.deletedAt = none &&
      c.status.allowedTransitions.contains .ended && !c.isPendingPreOpening).map fun c =>
        .finishing contractId c.endDate)
  | .finishing contractId endDate =>
    (if input.fails then db
      else { db with contracts := db.contracts.modify contractId (.finish endDate db.clock input.today) }, none)
  | .listing =>
    (db, some (.rechecking db.clock ((db.contracts.rows.filter fun q =>
      q.2.deletedAt = none && q.2.discountOver db.clock).map Prod.fst)))
  | .rechecking now [] => ({ db with reverts := db.reverts ++ [now] }, none)
  | .rechecking now (id :: later) =>
    (db, some (if (db.contracts.find id).any (·.discountOver now) then .reverting now id later
      else .rechecking now later))
  -- An error of the transaction ends the job.
  | .reverting now id later =>
    if input.fails then (db, none)
    else ({ db with contracts := db.contracts.modify id .revert }, some (.rechecking now later))

def stepRetention (db : RetentionDb) (call : RetentionCall) (input : RetentionInput) :
    Option (RetentionDb × Option RetentionCall) :=
  if input.moment < db.clock then none
  else
    let db := { db with clock := input.moment }
    if input.stops then some (db, none) else some (runRetention db input call)

def retentionSystem : System RetentionDb RetentionCall RetentionRequest RetentionInput where
  enter := enterRetention
  next := stepRetention

end StorageOS
