import StorageOS.Billing.Recurring

/-! The end date of a contract: asking for the end, changing or cancelling it, and renewing the
contract by hand or when its term is over. -/

namespace StorageOS

open Gregorian

def ContractStatus.name : ContractStatus → String
  | .draft => "draft"
  | .active => "active"
  | .ending => "ending"
  | .ended => "ended"
  | .cancelled => "cancelled"

def ContractStatus.allowedTransitions : ContractStatus → List ContractStatus
  | .draft => [.active, .cancelled]
  | .active => [.ending, .ended, .cancelled]
  | .ending => [.ended, .cancelled]
  | .ended => []
  | .cancelled => []

def ContractStatus.assertTransition (source target : ContractStatus) : Outcome Unit :=
  refuseIf (target ∉ source.allowedTransitions) (badRequest "invalid_contract_transition"
    ("Transicion invalida: " ++ source.name ++ " -> " ++ target.name))

def contractNotFound : Failure := notFound "contract_not_found" "Contrato no encontrado"

def preOpeningNotStarted : Failure := badRequest "pre_opening_not_started"
  "La reserva aún no ha empezado: cancélala como reserva antes de la apertura"

def noticePeriodNotMet (c : Contract) : Failure := badRequest "notice_period_not_met"
  ("La baja requiere un preaviso de " ++ toString c.cancellationNoticeDays ++ " días")

/-- The months of the term of a contract, from 1 to 120. The day after the end closes the term. -/
def termMonths (start last : Date) : ℤ :=
  let e := last + 1
  let months := monthOf e - monthOf start - if day e < day start then 1 else 0
  min 120 (max 1 months)

/-- The end date that comes back when the end is cancelled: the one from before, if not past. -/
def endDateAfterCancellingMoveOut (today : Date) (before : Option Date) : Option Date :=
  before.filter fun e => today ≤ e

/-- The end of a renewed contract: months from its end, or from today when that is past. -/
def Contract.renewedEndDate (c : Contract) (today : Date) (months : ℤ) : Date :=
  let base := match c.endDate with
    | some e => if today < e then e else today
    | none => today
  addMonths base months

/-- Adds the term until the date is not past, a bounded number of times. -/
def prolong (today : Date) (months : ℤ) : ℕ → Date → Date
  | 0, newEnd => newEnd
  | guard + 1, newEnd =>
    if newEnd < today then prolong today months guard (addMonths newEnd months) else newEnd

def Contract.termOver (c : Contract) (today : Date) : Bool :=
  c.status = .active && c.deletedAt.isNone && c.endDate.any fun e => e < today

def Contract.renewalMonths (c : Contract) (endDate : Date) : ℤ :=
  c.termMonths.getD (StorageOS.termMonths c.startDate endDate)

def Contract.autoRenewedEndDate (c : Contract) (today endDate : Date) : Date :=
  let months := c.renewalMonths endDate
  prolong today months 120 (addMonths endDate months)

def requestEnd (today : Date) (endDate : Option Date) (c : Contract) : Outcome Contract := do
  refuseIf c.deletedAt.isSome contractNotFound
  c.status.assertTransition .ending
  refuseIf c.isPendingPreOpening preOpeningNotStarted
  let newEnd := endDate.getD (today + c.cancellationNoticeDays)
  refuseIf (newEnd < c.startDate) (badRequest "invalid_end_date"
    "La fecha de baja no puede ser anterior al inicio del contrato")
  .ok { c with
    status := .ending
    endDate := some newEnd
    endDateBeforeEnding := c.endDate }

def requestEndByCustomer (today endDate : Date) (c : Contract) : Outcome Contract := do
  refuseIf c.deletedAt.isSome contractNotFound
  refuseIf (c.status ≠ .active) (badRequest "contract_not_active"
    "Solo puedes solicitar la baja de un contrato activo")
  refuseIf c.isPendingPreOpening preOpeningNotStarted
  refuseIf (endDate < today + c.cancellationNoticeDays) (noticePeriodNotMet c)
  .ok { c with
    status := .ending
    endDate := some endDate
    endDateBeforeEnding := c.endDate }

def changeMoveOutDateByCustomer (today endDate : Date) (c : Contract) : Outcome Contract := do
  refuseIf c.deletedAt.isSome contractNotFound
  refuseIf (c.status ≠ .ending) (badRequest "contract_not_ending"
    "Solo puedes cambiar la fecha de una baja que esté en curso")
  refuseIf (endDate < today + c.cancellationNoticeDays) (noticePeriodNotMet c)
  .ok { c with endDate := some endDate }

def cancelMoveOutByCustomer (today : Date) (c : Contract) : Outcome Contract := do
  refuseIf c.deletedAt.isSome contractNotFound
  refuseIf (c.status ≠ .ending) (badRequest "contract_not_ending"
    "Solo puedes cancelar una baja que esté en curso")
  .ok { c with
    status := .active
    endDate := endDateAfterCancellingMoveOut today c.endDateBeforeEnding
    endDateBeforeEnding := none }

/-- Renews a contract by some months, which cancels an end that is under way. -/
def renew (today : Date) (months : ℤ) (c : Contract) : Outcome Contract := do
  refuseIf c.deletedAt.isSome contractNotFound
  refuseIf (c.status ≠ .active ∧ c.status ≠ .ending) (badRequest "contract_not_renewable"
    "Solo se pueden renovar contratos activos o en baja")
  refuseIf c.isPendingPreOpening preOpeningNotStarted
  .ok { c with
    status := .active
    endDate := some (c.renewedEndDate today months)
    endDateBeforeEnding := if c.status = .ending then none else c.endDateBeforeEnding
    termMonths := some months }

/-- A contract past its end date is prolonged by its term, or ends when it does not renew itself. -/
def autoRenewDue (today : Date) (c : Contract) : Contract :=
  match c.endDate with
  | some e =>
    if c.termOver today then
      if c.autoRenew then
        { c with
          endDate := some (c.autoRenewedEndDate today e)
          termMonths := some (c.renewalMonths e) }
      else { c with status := .ending }
    else c
  | none => c

/-! ### What a change of the end leaves as it was -/

/-- A contract that goes on being billed from the same day in the same way. -/
structure Contract.Continues (c c' : Contract) : Prop where
  startDate : c'.startDate = c.startDate
  billingStartsOn : c'.billingStartsOn = c.billingStartsOn
  billingIntervalMonths : c'.billingIntervalMonths = c.billingIntervalMonths
  billed : c.isBilled = true → c'.isBilled = true

theorem Contract.Continues.billingStart {c c' : Contract} (continues : c.Continues c') :
    c'.billingStart = c.billingStart := by
  rw [Contract.billingStart, Contract.billingStart, continues.billingStartsOn,
    continues.startDate]

theorem Contract.isBilled_of {c c' : Contract} (status : c'.status = .active ∨ c'.status = .ending)
    (deletedAt : c'.deletedAt = c.deletedAt) (customerIsTest : c'.customerIsTest = c.customerIsTest)
    (started : c'.isPendingPreOpening = c.isPendingPreOpening) (billed : c.isBilled = true) :
    c'.isBilled = true := by
  unfold Contract.isBilled at *
  simp only [Bool.and_eq_true] at billed
  rw [deletedAt, customerIsTest, started, billed.1.1.2, billed.1.2, billed.2]
  simpa using status

section

variable {today endDate : Date} {c c' : Contract}

theorem requestEnd_ok {asked : Option Date} (h : requestEnd today asked c = .ok c') :
    c.Continues c' ∧ c'.endDate = some (asked.getD (today + c.cancellationNoticeDays)) := by
  simp only [requestEnd] at h
  replace h := Outcome.passed (Outcome.passed (Outcome.passed (Outcome.passed h)))
  cases h
  exact ⟨⟨rfl, rfl, rfl, Contract.isBilled_of (.inr rfl) rfl rfl rfl⟩, rfl⟩

theorem requestEndByCustomer_ok (h : requestEndByCustomer today endDate c = .ok c') :
    c.Continues c' ∧ c'.endDate = some endDate := by
  simp only [requestEndByCustomer] at h
  replace h := Outcome.passed (Outcome.passed (Outcome.passed (Outcome.passed h)))
  cases h
  exact ⟨⟨rfl, rfl, rfl, Contract.isBilled_of (.inr rfl) rfl rfl rfl⟩, rfl⟩

theorem changeMoveOutDateByCustomer_ok (h : changeMoveOutDateByCustomer today endDate c = .ok c') :
    c.Continues c' ∧ c'.endDate = some endDate := by
  simp only [changeMoveOutDateByCustomer] at h
  obtain ⟨_, -, h⟩ := Outcome.bind_ok h
  obtain ⟨_, ending, h⟩ := Outcome.bind_ok h
  obtain ⟨_, -, h⟩ := Outcome.bind_ok h
  cases h
  have status := not_not.mp (refuseIf_ok ending)
  exact ⟨⟨rfl, rfl, rfl, Contract.isBilled_of (.inr status) rfl rfl rfl⟩, rfl⟩

theorem cancelMoveOutByCustomer_ok (h : cancelMoveOutByCustomer today c = .ok c') :
    c.Continues c' ∧ c'.endDate = endDateAfterCancellingMoveOut today c.endDateBeforeEnding := by
  simp only [cancelMoveOutByCustomer] at h
  replace h := Outcome.passed (Outcome.passed h)
  cases h
  exact ⟨⟨rfl, rfl, rfl, Contract.isBilled_of (.inl rfl) rfl rfl rfl⟩, rfl⟩

theorem renew_ok {months : ℤ} (h : renew today months c = .ok c') :
    c.Continues c' ∧ c'.endDate = some (c.renewedEndDate today months) := by
  simp only [renew] at h
  replace h := Outcome.passed (Outcome.passed (Outcome.passed h))
  cases h
  exact ⟨⟨rfl, rfl, rfl, Contract.isBilled_of (.inl rfl) rfl rfl rfl⟩, rfl⟩

end

def Contract.endDateAfterRenewal (c : Contract) (today : Date) : Option Date :=
  if c.termOver today && c.autoRenew then c.endDate.map (c.autoRenewedEndDate today) else c.endDate

theorem autoRenewDue_continues (today : Date) (c : Contract) :
    c.Continues (autoRenewDue today c) ∧
      (autoRenewDue today c).endDate = c.endDateAfterRenewal today := by
  unfold autoRenewDue Contract.endDateAfterRenewal
  cases hasEnd : c.endDate with
  | none => exact ⟨⟨rfl, rfl, rfl, id⟩, by simp [hasEnd]⟩
  | some e =>
    by_cases expired : c.termOver today
    · have active : c.status = .active := by
        unfold Contract.termOver at expired
        simp only [Bool.and_eq_true, decide_eq_true_eq] at expired
        exact expired.1.1
      by_cases renews : c.autoRenew
      · simp only [expired, renews, if_true]
        exact ⟨⟨rfl, rfl, rfl, Contract.isBilled_of (.inl active) rfl rfl rfl⟩, rfl⟩
      · simp only [expired, renews, if_true]
        exact ⟨⟨rfl, rfl, rfl, Contract.isBilled_of (.inr rfl) rfl rfl rfl⟩, by simp⟩
    · simp only [expired]
      exact ⟨⟨rfl, rfl, rfl, id⟩, by simp [hasEnd]⟩

end StorageOS
