import StorageOS.Contracts.Requests

/-! What it means for the status of the units to tell the truth: a unit is occupied when a contract
rents it, and a reserved unit has a holder. -/

namespace StorageOS

def Tenancy.rents (c : Tenancy) (unitId : UnitId) : Bool :=
  c.inForce && !c.isPendingPreOpening && c.unitId = unitId

/-- The unit is kept for the contract: a draft it was given to, a contract before the opening, or one
that is to move to it. -/
def RentalDb.contractHolds (db : RentalDb) (id : ContractId) (c : Tenancy) (unitId : UnitId) :
    Bool :=
  c.deletedAt.isNone &&
    ((c.unitId = unitId && c.status = .draft &&
        (c.firstPaymentDeadline.isSome || c.preOpening || db.keptForDraft unitId id)) ||
      (c.unitId = unitId && c.isLive && c.isPendingPreOpening) ||
      (c.isLive && c.scheduledUnitId = some unitId))

/-- A reservation, a notified waitlist entry or a contract other than `skip` holds the unit. -/
def RentalDb.heldBut (db : RentalDb) (skip : Option ContractId) (unitId : UnitId) : Bool :=
  (db.reservations.rows.any fun r => r.2.unitId = unitId && r.2.isOpen) ||
  (db.waitlist.rows.any fun e => e.2.heldUnitId = some unitId && e.2.status = .notified) ||
  (db.contracts.rows.any fun c => skip ≠ some c.1 && db.contractHolds c.1 c.2 unitId)

structure Occupancy (db : RentalDb) : Prop where
  occupied : ∀ u unit, db.units.find u = some unit →
    (unit.status = .occupied ↔ ∃ k c, db.contracts.find k = some c ∧ c.rents u = true)
  alone : ∀ k k' c c', db.contracts.find k = some c → db.contracts.find k' = some c' →
    c.inForce = true → c'.inForce = true → c.unitId = c'.unitId → k = k'
  held : ∀ u unit, db.units.find u = some unit → unit.status = .reserved →
    db.heldBut none u = true

def EntriesOpen (db : RentalDb) : Prop :=
  ∀ k e, db.waitlist.find k = some e → e.isOpen = true → e.convertedContractId = none

section

variable {db db' : RentalDb} {id : ContractId} {u : UnitId} {skip : Option ContractId}

variable {c : Tenancy} {f : Tenancy → Tenancy} {now : Instant}

theorem rents_iff : c.rents u = true ↔
    c.inForce = true ∧ c.isPendingPreOpening = false ∧ c.unitId = u := by
  unfold Tenancy.rents
  simp only [Bool.and_eq_true, Bool.not_eq_true', decide_eq_true_eq, and_assoc]

theorem heldBut_iff : db.heldBut skip u = true ↔
    (∃ k r, db.reservations.find k = some r ∧ r.unitId = u ∧ r.isOpen = true) ∨
    (∃ k e, db.waitlist.find k = some e ∧ e.heldUnitId = some u ∧ e.status = .notified) ∨
    ∃ k c, db.contracts.find k = some c ∧ skip ≠ some k ∧ db.contractHolds k c u = true := by
  unfold RentalDb.heldBut
  simp only [Bool.or_eq_true, Table.any_rows, Bool.and_eq_true, decide_eq_true_eq, or_assoc]

theorem keptForDraft_iff : db.keptForDraft u id = true ↔
    (∃ k r, db.reservations.find k = some r ∧ r.unitId = u ∧ r.status = .converted ∧
      r.convertedContractId = some id) ∨
    ∃ k e, db.waitlist.find k = some e ∧ e.heldUnitId = some u ∧
      e.convertedContractId = some id := by
  unfold RentalDb.keptForDraft
  simp only [Bool.or_eq_true, Table.any_rows, Bool.and_eq_true, decide_eq_true_eq, and_assoc]

theorem contractHolds_iff : db.contractHolds id c u = true ↔
    (c.deletedAt = none ∧ c.unitId = u ∧ c.status = .draft ∧
      (c.firstPaymentDeadline.isSome = true ∨ c.preOpening = true ∨
        db.keptForDraft u id = true)) ∨
    (c.inForce = true ∧ c.unitId = u ∧ c.isPendingPreOpening = true) ∨
    (c.inForce = true ∧ c.scheduledUnitId = some u) := by
  unfold RentalDb.contractHolds Tenancy.inForce
  simp only [Bool.and_eq_true, Bool.or_eq_true, decide_eq_true_eq, Option.isNone_iff_eq_none]
  tauto

theorem contractHolds_congr (kept : db.keptForDraft u id = true → db'.keptForDraft u id = true)
    (h : db.contractHolds id c u = true) : db'.contractHolds id c u = true := by
  rw [contractHolds_iff] at h ⊢
  rcases h with ⟨deleted, on, draft, given⟩ | pending | move
  · refine .inl ⟨deleted, on, draft, ?_⟩
    rcases given with deadline | preOpening | before
    · exact .inl deadline
    · exact .inr (.inl preOpening)
    · exact .inr (.inr (kept before))
  · exact .inr (.inl pending)
  · exact .inr (.inr move)

theorem held_split (id : ContractId) (h : db.heldBut none u = true) : db.heldBut (some id) u = true ∨
    ∃ c, db.contracts.find id = some c ∧ db.contractHolds id c u = true := by
  rcases heldBut_iff.mp h with reserved | notified | ⟨k, c, row, -, holds⟩
  · exact .inl (heldBut_iff.mpr (.inl reserved))
  · exact .inl (heldBut_iff.mpr (.inr (.inl notified)))
  · by_cases same : k = id
    · subst same
      exact .inr ⟨c, row, holds⟩
    · refine .inl (heldBut_iff.mpr (.inr (.inr ⟨k, c, row, ?_, holds⟩)))
      simpa using fun h : id = k => same h.symm

theorem heldBut_none_of_some (h : db.heldBut skip u = true) : db.heldBut none u = true := by
  rw [heldBut_iff] at h ⊢
  rcases h with reserved | notified | ⟨k, c, row, -, holds⟩
  · exact .inl reserved
  · exact .inr (.inl notified)
  · exact .inr (.inr ⟨k, c, row, by simp, holds⟩)

theorem held_of_others (others : db.heldBut (some id) u = true) (reservations : db'.reservations = db.reservations)
    (waitlist : db'.waitlist = db.waitlist) (contracts : db'.contracts = db.contracts.modify id f) :
    db'.heldBut none u = true := by
  rw [heldBut_iff, reservations, waitlist, contracts]
  rcases heldBut_iff.mp others with reserved | notified | ⟨k, c, row, other, holds⟩
  · exact .inl reserved
  · exact .inr (.inl notified)
  · have apart : k ≠ id := fun h => other (by rw [h])
    refine .inr (.inr ⟨k, c, by rw [Table.find_modify_ne _ apart, row], by simp, ?_⟩)
    apply contractHolds_congr _ holds
    unfold RentalDb.keptForDraft
    rw [reservations, waitlist]
    exact fun h => h

theorem held_modify (held : db.heldBut none u = true) (stored : db.contracts.find id = some c)
    (reservations : db'.reservations = db.reservations) (waitlist : db'.waitlist = db.waitlist)
    (contracts : db'.contracts = db.contracts.modify id f)
    (own : db.contractHolds id c u = true → db'.heldBut none u = true) :
    db'.heldBut none u = true := by
  rcases held_split id held with others | ⟨d, row, holds⟩
  · exact held_of_others others reservations waitlist contracts
  · rw [stored] at row
    cases row
    exact own holds

theorem heldBut_of_heldByOther {q : HoldQuery} (h : unitHeldByOther now q db = true) :
    db.heldBut q.contractId q.unitId = true := by
  unfold unitHeldByOther at h
  simp only [Bool.or_eq_true, Bool.and_eq_true, Table.any_rows] at h
  rw [heldBut_iff]
  rcases h with ((((⟨-, k, r, row, holds⟩ | ⟨k, c, row, holds⟩) | ⟨k, c, row, moves⟩) |
    ⟨k, e, row, holds⟩) | ⟨k, c, row, ⟨other, draft⟩, kept⟩)
  · simp only [Reservation.holds, Bool.and_eq_true, decide_eq_true_eq] at holds
    exact .inl ⟨k, r, row, holds.1.1.1.1, holds.1.1.1.2⟩
  · refine .inr (.inr ⟨k, c, row, ?_⟩)
    simp only [Tenancy.holds, Tenancy.ofOther, Bool.and_eq_true, Bool.or_eq_true,
      decide_eq_true_eq] at holds
    obtain ⟨⟨⟨⟨on, deleted⟩, other⟩, -⟩, kind⟩ := holds
    refine ⟨other, ?_⟩
    unfold RentalDb.contractHolds Tenancy.isLive
    rcases kind with ⟨draft, deadline⟩ | ⟨active, pending⟩
    · have : c.firstPaymentDeadline.isSome = true := by
        cases has : c.firstPaymentDeadline <;> simp [has] at deadline ⊢
      simp [on, deleted, draft, this]
    · simp [on, deleted, active, pending]
  · refine .inr (.inr ⟨k, c, row, ?_⟩)
    simp only [Tenancy.movesTo, Tenancy.inForce, Bool.and_eq_true, decide_eq_true_eq] at moves
    obtain ⟨⟨scheduled, live, deleted⟩, other⟩ := moves
    refine ⟨other, ?_⟩
    unfold RentalDb.contractHolds
    simp [deleted, live, scheduled]
  · simp only [WaitlistEntry.holds, Bool.and_eq_true, decide_eq_true_eq] at holds
    exact .inr (.inl ⟨k, e, row, holds.1.1.1, holds.1.1.2⟩)
  · refine .inr (.inr ⟨k, c, row, ?_⟩)
    simp only [Tenancy.ofOther, Bool.and_eq_true, decide_eq_true_eq] at other draft kept
    obtain ⟨⟨⟨on, deleted⟩, other⟩, -⟩ := other
    refine ⟨other, ?_⟩
    unfold RentalDb.contractHolds
    simp [on, deleted, draft, kept]

/-- A release leaves the other units alone, and leaves its unit reserved only for somebody else. -/
theorem find_releaseReservedUnit {q : HoldQuery} {unit' : StorageUnit}
    (h : (releaseReservedUnit now q db).units.find u = some unit') :
    ∃ unit, db.units.find u = some unit ∧
      (unit'.status = .occupied ↔ unit.status = .occupied) ∧
      (unit'.status = .reserved → unit.status = .reserved ∧
        (u = q.unitId → db.heldBut q.contractId u = true)) := by
  unfold releaseReservedUnit at h
  split_ifs at h with held reserved
  · refine ⟨unit', h, Iff.rfl, fun still => ⟨still, ?_⟩⟩
    rintro rfl
    exact heldBut_of_heldByOther held
  · rcases Table.find_modify_cases h with ⟨other, found⟩ | ⟨rfl, unit, found, rfl⟩
    · exact ⟨unit', found, Iff.rfl, fun still => ⟨still, fun same => absurd same other⟩⟩
    · rw [found] at reserved
      have was : unit.status = .reserved := by simpa using reserved
      exact ⟨unit, found, by simp [was], by simp⟩
  · refine ⟨unit', h, Iff.rfl, fun still => ⟨still, ?_⟩⟩
    rintro rfl
    rw [h] at reserved
    simp [still] at reserved

theorem find_releaseScheduledUnit {existing : Tenancy} {unit' : StorageUnit}
    (h : (releaseScheduledUnit now id existing db).units.find u = some unit') :
    ∃ unit, db.units.find u = some unit ∧
      (unit'.status = .occupied ↔ unit.status = .occupied) ∧
      (unit'.status = .reserved → unit.status = .reserved ∧
        (existing.scheduledUnitId = some u → db.heldBut (some id) u = true)) := by
  unfold releaseScheduledUnit at h
  split at h
  · rename_i none
    exact ⟨unit', h, Iff.rfl, fun still => ⟨still, fun some => by rw [none] at some; cases some⟩⟩
  · rename_i v move
    obtain ⟨unit, found, occupied, reserved⟩ := find_releaseReservedUnit h
    refine ⟨unit, found, occupied, fun still => ⟨(reserved still).1, fun same => ?_⟩⟩
    rw [move, Option.some.injEq] at same
    exact (reserved still).2 same.symm

/-- The statuses follow a change of one contract: the unit it comes to rent is occupied, the one it
rented is not, and what stays reserved is held. -/
theorem Occupancy.modify (before : Occupancy db) (stored : db.contracts.find id = some c)
    (contracts : db'.contracts = db.contracts.modify id f)
    (free : (f c).inForce = true → ∀ k d, db.contracts.find k = some d → k ≠ id →
      d.inForce = true → d.unitId ≠ (f c).unitId)
    (units : ∀ u unit', db'.units.find u = some unit' → ∃ unit, db.units.find u = some unit ∧
      (unit'.status = .occupied ↔
        ((f c).rents u = true ∨ unit.status = .occupied ∧ c.rents u = false)) ∧
      (unit'.status = .reserved → db'.heldBut none u = true)) : Occupancy db' := by
  have now : db'.contracts.find id = some (f c) := by
    rw [contracts, Table.find_modify_self, stored]
    rfl
  have others : ∀ {k d}, k ≠ id → (db'.contracts.find k = some d ↔
      db.contracts.find k = some d) := fun {k d} apart => by
    rw [contracts, Table.find_modify_ne _ apart]
  constructor
  · intro u unit' found'
    obtain ⟨unit, found, occupied, -⟩ := units u unit' found'
    rw [occupied, before.occupied u unit found]
    constructor
    · rintro (rents | ⟨⟨k, d, row, rents⟩, notOn⟩)
      · exact ⟨id, f c, now, rents⟩
      · have apart : k ≠ id := by
          rintro rfl
          rw [stored] at row
          cases row
          rw [rents] at notOn
          cases notOn
        exact ⟨k, d, (others apart).mpr row, rents⟩
    · rintro ⟨k, d, row, rents⟩
      by_cases same : k = id
      · subst same
        rw [now] at row
        cases row
        exact .inl rents
      · have row := (others same).mp row
        refine .inr ⟨⟨k, d, row, rents⟩, ?_⟩
        by_contra on
        have on : c.rents u = true := by simpa using on
        unfold Tenancy.rents at on rents
        simp only [Bool.and_eq_true, decide_eq_true_eq] at on rents
        exact same (before.alone k id d c row stored rents.1.1 on.1.1 (by rw [rents.2, on.2]))
  · intro k k' d d' row row' force force' unit
    by_cases same : k = id
    · by_cases same' : k' = id
      · rw [same, same']
      · subst same
        rw [now] at row
        cases row
        exact absurd unit.symm (free force k' d' ((others same').mp row') same' force')
    · by_cases same' : k' = id
      · subst same'
        rw [now] at row'
        cases row'
        exact absurd unit (free force' k d ((others same).mp row) same force)
      · exact before.alone k k' d d' ((others same).mp row) ((others same').mp row') force force'
          unit
  · intro u unit' found' reserved
    obtain ⟨-, -, -, held⟩ := units u unit' found'
    exact held reserved

/-- `Occupancy` read off the rows. -/
def RentalDb.occupancyCheck (db : RentalDb) : Bool :=
  (db.units.rows.all fun u =>
    ((u.2.status = .occupied) == (db.contracts.rows.any fun c => c.2.rents u.1)) &&
      (u.2.status ≠ .reserved || db.heldBut none u.1)) &&
  (db.contracts.rows.all fun c => db.contracts.rows.all fun d =>
    !(c.2.inForce && d.2.inForce && c.2.unitId = d.2.unitId) || c.1 = d.1)

theorem occupancyCheck_iff : db.occupancyCheck = true ↔ Occupancy db := by
  unfold RentalDb.occupancyCheck
  simp only [Bool.and_eq_true, List.all_eq_true, Bool.or_eq_true, decide_eq_true_eq, beq_iff_eq,
    Bool.not_eq_true']
  constructor
  · rintro ⟨units, contracts⟩
    constructor
    · intro u unit found
      have := (units (u, unit) (Table.find_eq_some.mp found)).1
      rw [Bool.eq_iff_iff, decide_eq_true_eq, Table.any_rows] at this
      exact this
    · intro k k' c c' row row' force force' same
      have := contracts (k, c) (Table.find_eq_some.mp row) (k', c') (Table.find_eq_some.mp row')
      simpa [force, force', same] using this
    · intro u unit found reserved
      have := (units (u, unit) (Table.find_eq_some.mp found)).2
      simpa [reserved] using this
  · intro now
    refine ⟨fun ⟨u, unit⟩ mem => ?_, fun ⟨k, c⟩ row ⟨k', c'⟩ row' => ?_⟩
    · have found := Table.find_eq_some.mpr mem
      refine ⟨?_, ?_⟩
      · rw [Bool.eq_iff_iff, decide_eq_true_eq, Table.any_rows]
        exact now.occupied u unit found
      · by_cases reserved : unit.status = .reserved
        · exact .inr (now.held u unit found reserved)
        · exact .inl reserved
    · have alone := now.alone k k' c c' (Table.find_eq_some.mpr row) (Table.find_eq_some.mpr row')
      cases force : c.inForce <;> cases force' : c'.inForce <;> simp
      by_cases same : c.unitId = c'.unitId
      · exact .inr (alone force force' same)
      · exact .inl same

instance decidableOccupancy (db : RentalDb) : Decidable (Occupancy db) :=
  decidable_of_iff _ occupancyCheck_iff

end

end StorageOS
