import StorageOS.Contracts.Requests

/-! The status of a contract under requests that overlap. A request checks the change of status on
the contract it has read and writes the status by id, so it can reopen, end or cancel a contract that
another request has closed since. -/

namespace StorageOS

open Transition Processes

def ContractStatus.mayBecome : ContractStatus → List ContractStatus
  | .draft => [.active, .cancelled]
  | .active => [.ending, .ended, .cancelled]
  | .ending => [.active, .ended, .cancelled]
  | .ended => []
  | .cancelled => []

def ContractStatus.isOver (status : ContractStatus) : Bool := status = .ended || status = .cancelled

def ContractRequest.writes (existing : Tenancy) : ContractRequest → Option ContractStatus
  | .sign => some .active
  | .cancel => some .cancelled
  | .requestEnd _ => some .ending
  | .requestEndByCustomer _ => some .ending
  | .cancelMoveOutByCustomer => some .active
  | .renew _ => if existing.status = .ending then some .active else none
  | .endContract => some .ended
  | .changeUnit _ => none
  | .cancelScheduledMove => none

/-- A status that a request may write over what is stored: the contract is not over, or stays in the
status it is over in. -/
def leavesOver (stored : ContractStatus) (written : Option ContractStatus) : Prop :=
  stored.isOver = true → written.getD stored = stored

instance decidableLeavesOver (stored : ContractStatus) (written : Option ContractStatus) :
    Decidable (leavesOver stored written) := inferInstanceAs (Decidable (_ → _))

/-- No request writes its status on a contract that another one has ended or cancelled. -/
def notOvertaken (db : RentalDb) : RentalProcess → RentalClock → Prop
  | .write id existing request, _ =>
    ∀ c ∈ db.contracts.find id, leavesOver c.status (request.writes existing)
  | .create _, _ => True
  | .move _ _, _ => True

instance decidableNotOvertaken (db : RentalDb) :
    (process : RentalProcess) → (clock : RentalClock) → Decidable (notOvertaken db process clock)
  | .write id existing request, _ => inferInstanceAs (Decidable
      (∀ c ∈ db.contracts.find id, leavesOver c.status (request.writes existing)))
  | .create _, _ => inferInstanceAs (Decidable True)
  | .move _ _, _ => inferInstanceAs (Decidable True)

section

variable {clock : RentalClock} {id : ContractId} {existing : Tenancy} {db db' : RentalDb}
  {request : ContractRequest}

def Tenancy.fixed (c : Tenancy) : Option Instant × Bool × Option Instant × Option Instant :=
  (c.deletedAt, c.preOpening, c.preOpeningStartedAt, c.firstPaymentDeadline)

structure ContractRequest.Writes (request : ContractRequest) (existing : Tenancy)
    (f : Tenancy → Tenancy) : Prop where
  status : ∀ c, (f c).status = (request.writes existing).getD c.status
  fixed : ∀ c, (f c).fixed = c.fixed

variable {today : Date} {c c' : Contract}

theorem requestEnd_status {asked : Option Date} (h : requestEnd today asked c = .ok c') :
    c.status = .active ∧ c'.status = .ending := by
  simp only [requestEnd] at h
  obtain ⟨_, -, h⟩ := Outcome.bind_ok h
  obtain ⟨_, allowed, h⟩ := Outcome.bind_ok h
  replace h := Outcome.passed (Outcome.passed h)
  cases h
  have := assertTransition_ok allowed
  cases status : c.status <;> simp [status, ContractStatus.allowedTransitions] at this
  exact ⟨rfl, rfl⟩

theorem requestEndByCustomer_status {today endDate : Date} (h : requestEndByCustomer today endDate c = .ok c') :
    c.status = .active ∧ c'.status = .ending := by
  simp only [requestEndByCustomer] at h
  obtain ⟨_, -, h⟩ := Outcome.bind_ok h
  obtain ⟨_, active, h⟩ := Outcome.bind_ok h
  replace h := Outcome.passed (Outcome.passed h)
  cases h
  exact ⟨not_not.mp (refuseIf_ok active), rfl⟩

theorem cancelMoveOutByCustomer_status (h : cancelMoveOutByCustomer today c = .ok c') : c'.status = .active := by
  simp only [cancelMoveOutByCustomer] at h
  replace h := Outcome.passed (Outcome.passed h)
  cases h
  rfl

theorem renew_status {months : ℤ} (h : renew today months c = .ok c') : c'.status = .active := by
  simp only [renew] at h
  replace h := Outcome.passed (Outcome.passed (Outcome.passed h))
  cases h
  rfl

/-- The status that is written on a stored contract. A request that writes one has read a contract
that is not over, and only a signature or a cancellation has read a draft. -/
theorem commit_status (h : db.commit clock id existing request = .ok db') :
    (∃ f, (∃ c, db.contracts.find id = some c) ∧ db'.contracts = db.contracts.modify id f ∧
      request.Writes existing f) ∧
    (existing.status = .draft → request.writes existing = some .active ∨
      request.writes existing = some .cancelled ∨ request.writes existing = none) := by
  cases request with
  | sign =>
    obtain ⟨-, unit, facility, -, -, -, -, updated, -⟩ := sign_ok h
    exact ⟨⟨_, updated.stored, updated.contracts, ⟨fun _ => rfl, fun _ => rfl⟩⟩, fun _ => .inl rfl⟩
  | cancel =>
    obtain ⟨-, unit, cancelled, -, rfl, stored, rfl⟩ := cancel_ok h
    refine ⟨⟨Tenancy.cancelled, stored, ?_, ⟨fun _ => rfl, fun _ => rfl⟩⟩, fun _ => .inr (.inl rfl)⟩
    rw [releaseScheduledUnit_contracts]
    split <;> rfl
  | requestEnd endDate =>
    obtain ⟨written, made, ok⟩ := Outcome.bind_ok h
    obtain ⟨updated, -⟩ := updateContract_updated ok
    obtain ⟨read, status⟩ := requestEnd_status made
    refine ⟨⟨_, updated.stored, updated.contracts, ⟨fun _ => status, fun _ => rfl⟩⟩, fun draft => ?_⟩
    exact absurd (read.symm.trans draft) (by decide)
  | requestEndByCustomer endDate =>
    obtain ⟨written, made, ok⟩ := Outcome.bind_ok h
    obtain ⟨updated, -⟩ := updateContract_updated ok
    obtain ⟨read, status⟩ := requestEndByCustomer_status made
    refine ⟨⟨_, updated.stored, updated.contracts, ⟨fun _ => status, fun _ => rfl⟩⟩, fun draft => ?_⟩
    exact absurd (read.symm.trans draft) (by decide)
  | cancelMoveOutByCustomer =>
    obtain ⟨written, made, ok⟩ := Outcome.bind_ok h
    obtain ⟨updated, -⟩ := updateContract_updated ok
    have status := cancelMoveOutByCustomer_status made
    exact ⟨⟨_, updated.stored, updated.contracts, ⟨fun _ => status, fun _ => rfl⟩⟩, fun _ => .inl rfl⟩
  | renew months =>
    obtain ⟨written, made, ok⟩ := Outcome.bind_ok h
    obtain ⟨updated, -⟩ := updateContract_updated ok
    have status := renew_status made
    refine ⟨⟨_, updated.stored, updated.contracts, ⟨fun c => ?_, fun _ => rfl⟩⟩, fun draft => ?_⟩
    · by_cases ending : existing.status = .ending
      · simp [Tenancy.renewed, ContractRequest.writes, ending, status]
      · simp [Tenancy.renewed, ContractRequest.writes, ending]
    · simp [ContractRequest.writes, draft]
  | endContract =>
    obtain ⟨live, -, unit, ended, -, rfl, stored, rfl⟩ := endContract_ok h
    refine ⟨⟨Tenancy.ended (existing.effectiveEnd clock.today), stored, ?_,
      ⟨fun _ => rfl, fun _ => rfl⟩⟩, fun draft => ?_⟩
    · rw [releaseScheduledUnit_contracts]
      split <;> rfl
    · simp [Tenancy.isLive, draft] at live
  | changeUnit input =>
    obtain ⟨-, -, moved | ⟨-, date, scheduled⟩⟩ := changeUnit_ok h
    · obtain ⟨newUnit, oldUnit, -, -, -, -, updated, -⟩ := moveNow_ok moved
      exact ⟨⟨_, updated.stored, updated.contracts, ⟨fun _ => rfl, fun _ => rfl⟩⟩, fun _ => .inr (.inr rfl)⟩
    · obtain ⟨-, unit, -, -, -, updated, -⟩ := scheduleMove_ok scheduled
      exact ⟨⟨_, updated.stored, updated.contracts, ⟨fun _ => rfl, fun _ => rfl⟩⟩, fun _ => .inr (.inr rfl)⟩
  | cancelScheduledMove =>
    obtain ⟨updated, -⟩ := cancelScheduledMove_ok h
    exact ⟨⟨_, updated.stored, updated.contracts, ⟨fun _ => rfl, fun _ => rfl⟩⟩, fun _ => .inr (.inr rfl)⟩

theorem writes_not_draft : request.writes existing ≠ some .draft := by
  cases request <;> simp only [ContractRequest.writes, ne_eq, reduceCtorEq, Option.some.injEq,
    not_false_eq_true]
  split <;> simp

/-- What is written over a status is admitted unless it reopens or changes a contract that is
over. -/
theorem admitted_iff {stored : ContractStatus} {written : Option ContractStatus}
    (notDraft : written ≠ some .draft)
    (fromDraft : stored = .draft →
      written = some .active ∨ written = some .cancelled ∨ written = none) :
    (written.getD stored = stored ∨ written.getD stored ∈ stored.mayBecome) ↔
      leavesOver stored written := by
  cases stored with
  | draft =>
    rcases fromDraft rfl with rfl | rfl | rfl <;> decide
  | active =>
    rcases written with - | (_ | _ | _ | _ | _) <;> first | decide | exact absurd rfl notDraft
  | ending =>
    rcases written with - | (_ | _ | _ | _ | _) <;> first | decide | exact absurd rfl notDraft
  | ended =>
    rcases written with - | (_ | _ | _ | _ | _) <;> decide
  | cancelled =>
    rcases written with - | (_ | _ | _ | _ | _) <;> decide

end

/-- Each contract keeps its status or changes it as the life of a contract admits. -/
def ChangesAdmitted (db db' : RentalDb) : Prop :=
  ∀ k c, db.contracts.find k = some c → ∃ c', db'.contracts.find k = some c' ∧
    (c'.status = c.status ∨ c'.status ∈ c.status.mayBecome)

/-- A request that has not read a draft has not met one: the contract is no draft any more. -/
def ReadAfterDraft (db : RentalDb) : RentalProcess → Prop
  | .write id existing _ => ∃ c, db.contracts.find id = some c ∧
      (existing.status ≠ .draft → c.status ≠ .draft)
  | .create _ => True
  | .move _ _ => True

section

variable {db db' : RentalDb} {process : RentalProcess} {clock : RentalClock}
  {rest : Option RentalProcess}

theorem advance_admitted (read : ReadAfterDraft db process)
    (h : db.advance clock process = some (db', rest)) :
    ChangesAdmitted db db' ↔ notOvertaken db process clock := by
  rcases advance_cases h with ⟨input, rfl, made, -⟩ | ⟨id, existing, request, rfl, made, -⟩ |
    ⟨id, input, existing, rfl, -, rfl, -⟩
  · exact iff_of_true (fun k c found => ⟨c, find_create made found, .inl rfl⟩) trivial
  · obtain ⟨⟨f, -, contracts, writes⟩, fromDraft⟩ := commit_status made
    obtain ⟨c, found, notDraft⟩ := read
    have admitted : ((f c).status = c.status ∨ (f c).status ∈ c.status.mayBecome) ↔
        leavesOver c.status (request.writes existing) := by
      rw [writes.status c]
      apply admitted_iff writes_not_draft
      intro draft
      apply fromDraft
      by_contra other
      exact notDraft other draft
    constructor
    · intro changes c' found'
      rw [found] at found'
      cases found'
      obtain ⟨c'', after, change⟩ := changes id c found
      rw [contracts, Table.find_modify_self, found] at after
      cases after
      exact admitted.mp change
    · intro current k d row
      rw [contracts]
      refine Table.exists_find_modify row (fun own => ?_) (.inl rfl)
      rw [found] at own
      cases own
      exact admitted.mpr (current c found)
  · exact iff_of_true (fun k c found => ⟨c, found, .inl rfl⟩) trivial

theorem advance_afterDraft (h : db.advance clock process = some (db', rest)) {k : ContractId}
    {c : Tenancy} (found : db.contracts.find k = some c) :
    ∃ c', db'.contracts.find k = some c' ∧ (c.status ≠ .draft → c'.status ≠ .draft) := by
  rcases advance_cases h with ⟨input, rfl, made, -⟩ | ⟨id, existing, request, rfl, made, -⟩ |
    ⟨id, input, existing, rfl, -, rfl, -⟩
  · exact ⟨c, find_create made found, id⟩
  · obtain ⟨⟨f, -, contracts, writes⟩, -⟩ := commit_status made
    rw [contracts]
    refine Table.exists_find_modify found (fun _ notDraft => ?_) fun h => h
    rw [writes.status c]
    cases written : request.writes existing with
    | none => exact notDraft
    | some status =>
      rintro rfl
      exact writes_not_draft written
  · exact ⟨c, found, fun h => h⟩

theorem enter_readAfterDraft {request : RentalRequest} (h : db.enter request = some process) :
    ReadAfterDraft db process := by
  cases request with
  | create input =>
    cases h
    trivial
  | onContract id request =>
    simp only [RentalDb.enter, RentalDb.findContract, Option.map_eq_some_iff,
      Option.filter_eq_some_iff] at h
    obtain ⟨existing, ⟨found, -⟩, rfl⟩ := h
    exact ⟨existing, found, fun h => h⟩
  | applyScheduledMove id today =>
    simp only [RentalDb.enter, Option.map_eq_some_iff] at h
    obtain ⟨input, -, rfl⟩ := h
    trivial

end

section

variable {start s t : State RentalDb RentalProcess}

theorem running_readAfterDraft (idle : start.running = []) (run : Reaches rentals.step start s) :
    ∀ process ∈ s.running, ReadAfterDraft s.db process := by
  have all := System.invariant (P := fun _ => True) (Q := ReadAfterDraft)
    (System.admitted run) trivial
    (by simp [idle]) (fun _ entered => enter_readAfterDraft entered)
    (fun {db process clock db' rest} _ _ _ made => ⟨trivial, ?_, ?_⟩)
  · exact all.2
  · rintro process' rfl
    rcases advance_cases made with ⟨_, -, -, done⟩ | ⟨_, _, _, -, -, done⟩ |
      ⟨id, input, existing, -, found, rfl, continues⟩
    · cases done
    · cases done
    · cases continues
      simp only [RentalDb.findContract, Option.filter_eq_some_iff] at found
      exact ⟨existing, found.1, fun h => h⟩
  · intro other read
    cases other with
    | create input => trivial
    | move id input => trivial
    | write id existing request =>
      obtain ⟨c, found, notDraft⟩ := read
      obtain ⟨c', found', kept⟩ := advance_afterDraft made found
      exact ⟨c', found', fun h => kept (notDraft h)⟩

/-- A step changes statuses as the life of a contract admits exactly when no request overtakes
another one in it. -/
theorem step_admitted (idle : start.running = []) (run : Reaches rentals.step start s)
    {a : Action RentalRequest RentalClock} (taken : rentals.step s a = some t) :
    ChangesAdmitted s.db t.db ↔ System.admits notOvertaken s a := by
  rcases System.step_cases taken with ⟨request, process, rfl, -, rfl⟩ |
    ⟨i, clock, process, db, rest, rfl, found, made, rfl⟩
  · exact iff_of_true (fun k c row => ⟨c, row, .inl rfl⟩) trivial
  · have read := running_readAfterDraft idle run process (List.mem_of_getElem? found)
    rw [advance_admitted read made]
    constructor
    · intro current process' found'
      rw [found] at found'
      cases found'
      exact current
    · intro current
      exact current process found

/-- What was over when a run began that overtakes no request is still over in the same way, and the
next step makes only the changes that are admitted exactly when it does not overtake one either. -/
theorem status_machine (idle : start.running = []) (before : Reaches rentals.step start s)
    (run : Run rentals.step (System.admits notOvertaken) s t) :
    (∀ k c, s.db.contracts.find k = some c → c.status.isOver = true →
      ∃ c', t.db.contracts.find k = some c' ∧ c'.status = c.status) ∧
    ∀ a u, rentals.step t a = some u →
      (ChangesAdmitted t.db u.db ↔ System.admits notOvertaken t a) := by
  have reached : Reaches rentals.step start t := before.trans (run.mono fun _ _ _ => trivial)
  refine ⟨?_, fun a u taken => step_admitted idle reached taken⟩
  clear reached
  induction run with
  | refl => exact fun k c found _ => ⟨c, found, rfl⟩
  | @tail u v a run admitted taken ih =>
    intro k c found ended
    obtain ⟨c', found', same⟩ := ih k c found ended
    have reached := before.trans (run.mono fun _ _ _ => trivial)
    obtain ⟨c'', found'', change⟩ := (step_admitted idle reached taken).mpr admitted k c' found'
    refine ⟨c'', found'', ?_⟩
    have closed : c'.status.mayBecome = [] := by
      rw [same]
      revert ended
      cases c.status <;> decide
    rcases change with change | change
    · rw [change, same]
    · rw [closed] at change
      cases change

end

def oneContract (status : ContractStatus) (unit : UnitStatus) : RentalDb :=
  let customer : RentalCustomer := ⟨none, false, false⟩
  let facility : Facility := ⟨none, false, none, 6⟩
  let input : CreateContractInput :=
    ⟨0, 0, none, none, 0, none, 1, 1, 0, 8000, 0, 0, none, true, 15⟩
  { customers := Table.empty.push customer
    facilities := Table.empty.push facility
    units := Table.empty.push ⟨0, unit, 8000⟩
    contracts := Table.empty.push { draftContract 0 customer facility input with status := status }
    reservations := Table.empty
    waitlist := Table.empty
    invoices := Table.empty }

def RentalDb.statusOf (db : RentalDb) (id : ContractId) : Option ContractStatus :=
  (db.contracts.find id).map (·.status)

/-- A contract that is signed after its tenant has asked for two signatures at once. -/
theorem status_machine_signed : ∃ s t,
    Reaches rentals.step ⟨oneContract .draft .available, []⟩ s ∧
    Run rentals.step (System.admits notOvertaken) s t ∧ t.db.statusOf 0 = some .active ∧
    ∀ a u, rentals.step t a = some u →
      (ChangesAdmitted t.db u.db ↔ System.admits notOvertaken t a) := by
  obtain ⟨s, before, hs⟩ := Run.exists_of_exec rentals.step (fun _ _ => True)
    ⟨oneContract .draft .available, []⟩ [.start (.onContract 0 .sign)]
    (fun s => (exec (fun x a => if System.admits notOvertaken x a then rentals.step x a else none) s
      [.start (.onContract 0 .sign), .advance 0 ⟨0, 0⟩]).any fun t =>
        t.db.statusOf 0 = some .active) (by decide +kernel)
  obtain ⟨t, run, ht⟩ := Run.exists_of_exec rentals.step (System.admits notOvertaken) s
    [.start (.onContract 0 .sign), .advance 0 ⟨0, 0⟩]
    (fun t => t.db.statusOf 0 = some .active) hs
  exact ⟨s, t, before, run, by simpa using ht, (status_machine rfl before run).2⟩

/-- A contract is ended and then cancelled, by two requests that have both read it active. -/
theorem ended_then_cancelled : ∃ s t a,
    Reaches rentals.step ⟨oneContract .active .occupied, []⟩ s ∧ rentals.step s a = some t ∧
    s.db.statusOf 0 = some .ended ∧ t.db.statusOf 0 = some .cancelled ∧
    ¬ChangesAdmitted s.db t.db := by
  obtain ⟨s, run, hs⟩ := Run.exists_of_exec rentals.step (fun _ _ => True)
    ⟨oneContract .active .occupied, []⟩
    [.start (.onContract 0 .endContract), .start (.onContract 0 .cancel), .advance 0 ⟨0, 0⟩]
    (fun s => s.db.statusOf 0 = some .ended && (rentals.step s (.advance 0 ⟨0, 0⟩)).any fun t =>
      t.db.statusOf 0 = some .cancelled) (by decide +kernel)
  simp only [Bool.and_eq_true, decide_eq_true_eq, Option.any_eq_true] at hs
  obtain ⟨ended, t, taken, cancelled⟩ := hs
  refine ⟨s, t, _, run, taken, ended, cancelled, fun changes => ?_⟩
  simp only [RentalDb.statusOf, Option.map_eq_some_iff] at ended cancelled
  obtain ⟨c, found, status⟩ := ended
  obtain ⟨c', found', status'⟩ := cancelled
  obtain ⟨c'', found'', change⟩ := changes 0 c found
  rw [found'] at found''
  cases found''
  rw [status, status'] at change
  revert change
  decide

end StorageOS
