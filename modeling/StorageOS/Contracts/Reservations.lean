import StorageOS.Contracts.Requests

/-! The outcome of a reservation under requests that overlap. Confirming and cancelling claim the
reservation in the status they have read; the conversion into a contract and the job that expires
reservations update by id after an earlier read. -/

namespace StorageOS

open Transition Processes

def ReservationStatus.allowedTransitions : ReservationStatus → List ReservationStatus
  | .pending => [.confirmed, .cancelled, .expired]
  | .confirmed => [.cancelled, .expired, .converted]
  | .expired => []
  | .converted => []
  | .cancelled => []

def ReservationStatus.assertTransition (source target : ReservationStatus) : Outcome Unit :=
  refuseIf (target ∉ source.allowedTransitions) (badRequest "invalid_reservation_transition"
    ("Transicion invalida: " ++ source.name ++ " -> " ++ target.name))

def unitHeld : Failure := conflict "unit_held_by_other"
  "Este trastero está guardado para otra persona: elige otro o espera a que se libere"

def Reservation.withStatus (status : ReservationStatus) (r : Reservation) : Reservation :=
  { r with status := status }

def RentalDb.claimStatus (db : RentalDb) (id : ReservationId) (source target : ReservationStatus) :
    Outcome RentalDb := do
  refuseIf (¬(db.reservations.find id).any fun r => r.status = source)
    (conflict "reservation_changed" "Esta reserva acaba de cambiar: recarga la página")
  .ok { db with reservations := db.reservations.modify id (Reservation.withStatus target) }

def confirm (clock : RentalClock) (id : ReservationId) (existing : Reservation) (db : RentalDb) :
    Outcome RentalDb := do
  existing.status.assertTransition .confirmed
  refuseIf (existing.validUntil ≤ clock.now) (badRequest "reservation_expired"
    "Esta reserva ya ha vencido: crea una nueva")
  let unit ← orMissing (db.units.find existing.unitId)
  refuseIf (unit.status = .occupied ∨ unit.status = .maintenance ∨ unit.status = .blocked)
    (conflict "unit_not_reservable"
      ("El trastero está en estado " ++ unit.status.name ++ ": no se puede confirmar la reserva"))
  refuseIf (unitHeldByOther clock.now { unitId := existing.unitId
                                        customerId := existing.customerId
                                        ignoreReservations := true } db) unitHeld
  let claimed ← db.claimStatus id existing.status .confirmed
  .ok (if unit.status = .available then claimed.setUnitStatus existing.unitId .reserved
    else claimed)

def RentalDb.releaseConfirmed (db : RentalDb) (now : Instant) (id : ReservationId)
    (unitId : UnitId) (read : ReservationStatus) : RentalDb :=
  if read = .confirmed then
    releaseReservedUnit now { unitId := unitId, reservationId := some id } db
  else db

def cancelReservation (clock : RentalClock) (id : ReservationId) (existing : Reservation)
    (db : RentalDb) : Outcome RentalDb := do
  existing.status.assertTransition .cancelled
  let claimed ← db.claimStatus id existing.status .cancelled
  .ok (claimed.releaseConfirmed clock.now id existing.unitId existing.status)

def RentalDb.dueReservations (db : RentalDb) (now : Instant) : List (ReservationId × Reservation) :=
  db.reservations.rows.filter fun r => r.2.isOpen && r.2.validUntil < now

def expireOne (now : Instant) (db : RentalDb) (due : ReservationId × Reservation) : RentalDb :=
  RentalDb.releaseConfirmed
    { db with reservations := db.reservations.modify due.1 (Reservation.withStatus .expired) }
    now due.1 due.2.unitId due.2.status

/-- Expires the reservations that were read, whatever has become of them. -/
def expireDue (now : Instant) (due : List (ReservationId × Reservation)) (db : RentalDb) :
    RentalDb :=
  due.foldl (expireOne now) db

structure ConvertReservationInput where
  customerId : Option CustomerId
  startDate : Date
  endDate : Option Date
  priceMonthly : ℤ
  discountAmount : ℤ
  depositAmount : ℤ
  deriving DecidableEq

/-- The contract asked for when a reservation is converted, with the defaults of a contract. -/
def convertInput (id : ReservationId) (existing : Reservation) (input : ConvertReservationInput) :
    Outcome CreateContractInput := do
  refuseIf (existing.status ≠ .pending ∧ existing.status ≠ .confirmed)
    (badRequest "reservation_not_convertible"
      "Solo se pueden convertir reservas pending o confirmed")
  let customerId ← orFail (input.customerId.or existing.customerId) (badRequest "customer_required"
    "La reserva no tiene customer; envia customerId")
  .ok {
    customerId := customerId
    unitId := existing.unitId
    reservationId := some id
    waitlistEntryId := none
    startDate := input.startDate
    endDate := input.endDate
    billingIntervalMonths := 1
    firstPaymentMonths := 1
    prepayDiscountPct := 0
    priceMonthly := input.priceMonthly
    discountAmount := input.discountAmount
    depositAmount := input.depositAmount
    insurancePrice := none
    autoRenew := true
    cancellationNoticeDays := 15 }

inductive ReservationRequest
  | confirm (id : ReservationId)
  | cancel (id : ReservationId)
  | convertToContract (id : ReservationId) (input : ConvertReservationInput)
  | create (input : CreateContractInput)
  | expireDue (now : Instant)

/-- What a request under way remembers of its reads. The conversion reads the reservation twice, the
second time in the transaction that writes it. -/
inductive ReservationProcess
  | confirm (id : ReservationId) (existing : Reservation)
  | cancel (id : ReservationId) (existing : Reservation)
  | create (input : CreateContractInput)
  | convert (input : CreateContractInput) (reads : ContractReads)
  | expire (due : List (ReservationId × Reservation))
  deriving DecidableEq

def RentalDb.enterReservation (db : RentalDb) : ReservationRequest → Option ReservationProcess
  | .confirm id => (db.reservations.find id).map (.confirm id)
  | .cancel id => (db.reservations.find id).map (.cancel id)
  | .convertToContract id input =>
    (db.reservations.find id).bind fun existing =>
      (convertInput id existing input).toOption.map .create
  | .create input => some (.create input)
  | .expireDue now => some (.expire (db.dueReservations now))

def RentalDb.advanceReservation (db : RentalDb) (clock : RentalClock) :
    ReservationProcess → Option (RentalDb × Option ReservationProcess)
  | .confirm id existing =>
    (StorageOS.confirm clock id existing db).toOption.map fun db' => (db', none)
  | .cancel id existing =>
    (cancelReservation clock id existing db).toOption.map fun db' => (db', none)
  | .create input =>
    (readForContract input db).toOption.map fun reads => (db, some (.convert input reads))
  | .convert input reads => some (writeContract clock input reads (reads.credit db) db, none)
  | .expire due => some (StorageOS.expireDue clock.now due db, none)

def bookings : Processes.System RentalDb ReservationProcess ReservationRequest RentalClock where
  enter := RentalDb.enterReservation
  next db process clock := db.advanceReservation clock process

def Reservation.outcome (r : Reservation) : ReservationStatus × Option ContractId :=
  (r.status, r.convertedContractId)

/-- The updates by id find the reservation still open, or already expired where they expire it. -/
def claimsOpen (db : RentalDb) : ReservationProcess → RentalClock → Prop
  | .convert _ reads, _ => ∀ read ∈ reads.reservation, ∀ r ∈ db.reservations.find read.1,
      r.isOpen = true
  | .expire due, _ => ∀ read ∈ due, ∀ r ∈ db.reservations.find read.1,
      r.isOpen = true ∨ r.status = .expired
  | .confirm _ _, _ => True
  | .cancel _ _, _ => True
  | .create _, _ => True

instance decidableClaimsOpen (db : RentalDb) :
    (process : ReservationProcess) → (clock : RentalClock) → Decidable (claimsOpen db process clock)
  | .convert _ reads, _ => inferInstanceAs (Decidable (∀ read ∈ reads.reservation,
      ∀ r ∈ db.reservations.find read.1, r.isOpen = true))
  | .expire due, _ => inferInstanceAs (Decidable (∀ read ∈ due,
      ∀ r ∈ db.reservations.find read.1, r.isOpen = true ∨ r.status = .expired))
  | .confirm _ _, _ => inferInstanceAs (Decidable True)
  | .cancel _ _, _ => inferInstanceAs (Decidable True)
  | .create _, _ => inferInstanceAs (Decidable True)

def OutcomesKept (db db' : RentalDb) : Prop :=
  ∀ k r, db.reservations.find k = some r → r.isOpen = false →
    ∃ r', db'.reservations.find k = some r' ∧ r'.outcome = r.outcome

theorem OutcomesKept.refl (db : RentalDb) : OutcomesKept db db := fun _ r found _ => ⟨r, found, rfl⟩

theorem isOpen_of_outcome {r r' : Reservation} (h : r'.outcome = r.outcome) :
    r'.isOpen = r.isOpen := by
  unfold Reservation.isOpen
  rw [show r'.status = r.status from congrArg Prod.fst h]

theorem OutcomesKept.trans {db db' db'' : RentalDb} (first : OutcomesKept db db')
    (second : OutcomesKept db' db'') : OutcomesKept db db'' := by
  intro k r found closed
  obtain ⟨r', found', same⟩ := first k r found closed
  obtain ⟨r'', found'', same'⟩ := second k r' found' (by rw [isOpen_of_outcome same, closed])
  exact ⟨r'', found'', same'.trans same⟩

section

variable {db db' : RentalDb} {clock : RentalClock} {id : ReservationId} {existing : Reservation}

theorem OutcomesKept.modify {f : Reservation → Reservation}
    (reservations : db'.reservations = db.reservations.modify id f)
    (own : ∀ r, db.reservations.find id = some r → r.isOpen = false →
      (f r).outcome = r.outcome) : OutcomesKept db db' := by
  intro k r found closed
  rw [reservations]
  exact Table.exists_find_modify found (fun same => own r same closed) rfl

@[simp] theorem releaseReservedUnit_reservations (now : Instant) (q : HoldQuery) :
    (releaseReservedUnit now q db).reservations = db.reservations := by
  rw [releaseReservedUnit_eq]

@[simp] theorem releaseConfirmed_reservations (now : Instant) (unitId : UnitId)
    (read : ReservationStatus) :
    (db.releaseConfirmed now id unitId read).reservations = db.reservations := by
  unfold RentalDb.releaseConfirmed
  split
  · rw [releaseReservedUnit_reservations]
  · rfl

theorem claimStatus_kept {source target : ReservationStatus}
    (open_ : source = .pending ∨ source = .confirmed)
    (h : db.claimStatus id source target = .ok db') : OutcomesKept db db' := by
  obtain ⟨_, claimed, h⟩ := Outcome.bind_ok h
  cases h
  apply OutcomesKept.modify (f := Reservation.withStatus target) rfl
  intro r found closed
  have status : r.status = source := by simpa [found] using refuseIf_ok claimed
  rcases open_ with rfl | rfl <;> simp [Reservation.isOpen, status] at closed

theorem confirm_kept (h : confirm clock id existing db = .ok db') : OutcomesKept db db' := by
  unfold confirm at h
  obtain ⟨_, allowed, h⟩ := Outcome.bind_ok h
  obtain ⟨_, -, h⟩ := Outcome.bind_ok h
  obtain ⟨unit, -, h⟩ := Outcome.bind_ok h
  replace h := Outcome.passed (Outcome.passed h)
  obtain ⟨claimed, won, h⟩ := Outcome.bind_ok h
  have source : existing.status = .pending ∨ existing.status = .confirmed := by
    have := not_not.mp (refuseIf_ok allowed)
    cases status : existing.status <;> simp [status, ReservationStatus.allowedTransitions] at this ⊢
  have kept := claimStatus_kept source won
  cases h
  split
  · exact kept
  · exact kept

theorem cancelReservation_kept (h : cancelReservation clock id existing db = .ok db') :
    OutcomesKept db db' := by
  unfold cancelReservation at h
  obtain ⟨_, allowed, h⟩ := Outcome.bind_ok h
  obtain ⟨claimed, won, h⟩ := Outcome.bind_ok h
  have source : existing.status = .pending ∨ existing.status = .confirmed := by
    have := not_not.mp (refuseIf_ok allowed)
    cases status : existing.status <;> simp [status, ReservationStatus.allowedTransitions] at this ⊢
  have kept := claimStatus_kept source won
  cases h
  intro k r found closed
  rw [releaseConfirmed_reservations]
  exact kept k r found closed

theorem expireOne_kept {due : ReservationId × Reservation}
    (fits : ∀ r ∈ db.reservations.find due.1, r.isOpen = true ∨ r.status = .expired) :
    OutcomesKept db (expireOne clock.now db due) := by
  apply OutcomesKept.modify (f := Reservation.withStatus .expired)
    (releaseConfirmed_reservations _ _ _)
  intro r found closed
  rcases fits r found with isOpen | expired
  · rw [closed] at isOpen
    cases isOpen
  · simp [Reservation.outcome, Reservation.withStatus, expired]

theorem expireOne_fits {due : ReservationId × Reservation} {k : ReservationId}
    (fits : ∀ r ∈ db.reservations.find k, r.isOpen = true ∨ r.status = .expired) :
    ∀ r ∈ (expireOne clock.now db due).reservations.find k,
      r.isOpen = true ∨ r.status = .expired := by
  intro r found
  rw [expireOne, releaseConfirmed_reservations] at found
  rcases Table.find_modify_cases found with ⟨-, found⟩ | ⟨rfl, r', found, rfl⟩
  · exact fits r found
  · exact .inr rfl

theorem expireDue_kept {due : List (ReservationId × Reservation)}
    (fits : ∀ read ∈ due, ∀ r ∈ db.reservations.find read.1,
      r.isOpen = true ∨ r.status = .expired) :
    OutcomesKept db (expireDue clock.now due db) := by
  induction due generalizing db with
  | nil => exact .refl db
  | cons first rest ih =>
    have kept : OutcomesKept db (expireOne clock.now db first) :=
      expireOne_kept (fits first List.mem_cons_self)
    apply kept.trans
    apply ih
    intro read mem
    exact expireOne_fits (fits read (List.mem_cons_of_mem _ mem))

theorem writeContract_kept {input : CreateContractInput} {reads : ContractReads}
    {credit : Option SignalCredit}
    (fits : ∀ read ∈ reads.reservation, ∀ r ∈ db.reservations.find read.1, r.isOpen = true) :
    OutcomesKept db (writeContract clock input reads credit db) := by
  have written : (writeContract clock input reads credit db).reservations = _ :=
    writeContract_reservations
  cases read : reads.reservation with
  | none =>
    rw [read] at written
    exact fun k r found _ => ⟨r, by rw [written, found], rfl⟩
  | some row =>
    rw [read] at written
    apply OutcomesKept.modify written
    intro r found closed
    have isOpen := fits row read r found
    rw [closed] at isOpen
    cases isOpen

theorem advanceReservation_kept {process : ReservationProcess} {rest : Option ReservationProcess}
    (fits : claimsOpen db process clock)
    (h : db.advanceReservation clock process = some (db', rest)) : OutcomesKept db db' := by
  cases process with
  | confirm id existing =>
    simp only [RentalDb.advanceReservation, Option.map_eq_some_iff, Prod.mk.injEq] at h
    obtain ⟨_, made, rfl, -⟩ := h
    exact confirm_kept (Outcome.ok_of_toOption made)
  | cancel id existing =>
    simp only [RentalDb.advanceReservation, Option.map_eq_some_iff, Prod.mk.injEq] at h
    obtain ⟨_, made, rfl, -⟩ := h
    exact cancelReservation_kept (Outcome.ok_of_toOption made)
  | create input =>
    simp only [RentalDb.advanceReservation, Option.map_eq_some_iff, Prod.mk.injEq] at h
    obtain ⟨_, -, rfl, -⟩ := h
    exact .refl db
  | convert input reads =>
    simp only [RentalDb.advanceReservation, Option.some.injEq, Prod.mk.injEq] at h
    obtain ⟨rfl, -⟩ := h
    exact writeContract_kept fits
  | expire due =>
    simp only [RentalDb.advanceReservation, Option.some.injEq, Prod.mk.injEq] at h
    obtain ⟨rfl, -⟩ := h
    exact expireDue_kept fits

end

/-- A reservation that is converted, cancelled or expired stays so, with its contract, in every run
whose updates by id find their reservations open. -/
theorem outcome_final {s t : State RentalDb ReservationProcess}
    (run : Run bookings.step (System.admits claimsOpen) s t) :
    ∀ k r, s.db.reservations.find k = some r → r.isOpen = false →
      ∃ r', t.db.reservations.find k = some r' ∧ r'.outcome = r.outcome := by
  apply Run.invariant (P := fun x => OutcomesKept s.db x.db) run (.refl _)
  intro x a y kept admitted taken
  rcases System.step_cases taken with ⟨request, process, rfl, -, rfl⟩ |
    ⟨i, clock, process, db, rest, rfl, found, made, rfl⟩
  · exact kept
  · exact kept.trans (advanceReservation_kept (admitted process found) made)

def oneReservation : RentalDb where
  customers := Table.empty.push ⟨none, false, false⟩
  facilities := Table.empty.push ⟨none, false, none, 6⟩
  units := Table.empty.push ⟨0, .reserved, 8000⟩
  contracts := Table.empty
  reservations := Table.empty.push ⟨0, some 0, .confirmed, 100, false, none, none⟩
  waitlist := Table.empty
  invoices := Table.empty

def RentalDb.outcomeOf (db : RentalDb) (id : ReservationId) :
    Option (ReservationStatus × Option ContractId) :=
  (db.reservations.find id).map (·.outcome)

/-- A reservation that is converted while its cancellation is under way. -/
theorem outcome_final_converted : ∃ s t,
    Reaches bookings.step ⟨oneReservation, []⟩ s ∧
    Run bookings.step (System.admits claimsOpen) s t ∧
    s.db.outcomeOf 0 = some (.converted, some 0) ∧ t.db.outcomeOf 0 = some (.converted, some 0) := by
  obtain ⟨s, before, hs⟩ := Run.exists_of_exec bookings.step (fun _ _ => True)
    ⟨oneReservation, []⟩
    [.start (.convertToContract 0 ⟨none, 0, none, 8000, 0, 0⟩), .start (.cancel 0),
      .advance 0 ⟨0, 0⟩, .advance 0 ⟨0, 0⟩]
    (fun s => s.db.outcomeOf 0 = some (.converted, some 0) &&
      (exec (fun x a => if System.admits claimsOpen x a then bookings.step x a else none) s
        [.start (.expireDue 200), .advance 1 ⟨200, 0⟩]).any fun _ => true) (by decide +kernel)
  simp only [Bool.and_eq_true, decide_eq_true_eq] at hs
  obtain ⟨t, run, -⟩ := Run.exists_of_exec bookings.step (System.admits claimsOpen) s
    [.start (.expireDue 200), .advance 1 ⟨200, 0⟩] (fun _ => true) hs.2
  refine ⟨s, t, before, run, hs.1, ?_⟩
  obtain ⟨r, found, outcome⟩ := Option.map_eq_some_iff.mp hs.1
  have closed : r.isOpen = false := by
    rw [Reservation.isOpen, show r.status = .converted from congrArg Prod.fst outcome]
    rfl
  obtain ⟨r', found', same⟩ := outcome_final run 0 r found closed
  rw [RentalDb.outcomeOf, found', Option.map_some, same, outcome]

/-- A reservation past its date is converted between the read and the write of the job, which then
reports it expired. -/
theorem converted_then_expired : ∃ s t, Reaches bookings.step ⟨oneReservation, []⟩ s ∧
    Reaches bookings.step s t ∧ s.db.outcomeOf 0 = some (.converted, some 0) ∧
    t.db.outcomeOf 0 = some (.expired, some 0) := by
  obtain ⟨s, before, hs⟩ := Run.exists_of_exec bookings.step (fun _ _ => True)
    ⟨oneReservation, []⟩
    [.start (.expireDue 200), .start (.convertToContract 0 ⟨none, 0, none, 8000, 0, 0⟩),
      .advance 1 ⟨200, 0⟩, .advance 1 ⟨200, 0⟩]
    (fun s => s.db.outcomeOf 0 = some (.converted, some 0) &&
      (exec (fun x a => if True then bookings.step x a else none) s [.advance 0 ⟨200, 0⟩]).any
        fun t => t.db.outcomeOf 0 = some (.expired, some 0)) (by decide +kernel)
  simp only [Bool.and_eq_true, decide_eq_true_eq] at hs
  obtain ⟨t, after, ht⟩ := Run.exists_of_exec bookings.step (fun _ _ => True) s
    [.advance 0 ⟨200, 0⟩] (fun t => t.db.outcomeOf 0 = some (.expired, some 0)) hs.2
  exact ⟨s, t, before, after, hs.1, by simpa using ht⟩

end StorageOS
