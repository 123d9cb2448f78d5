import StorageOS.Contracts.Holders
import StorageOS.Contracts.StatusMachine

/-! What the transactions of contracts do to the status of the units. A request frees and takes the
units of the contract it has read; where the stored contract is still like that in what matters for
the units, the statuses stay true. -/

namespace StorageOS

def RentalDb.reservedOnlyFor (db : RentalDb) (id : ContractId) (u : UnitId) : Bool :=
  ((db.units.find u).any fun unit => unit.status = .reserved) && !db.heldBut (some id) u

/-- A contract other than `id` rents the unit. -/
def RentalDb.rentedByOther (db : RentalDb) (id : ContractId) (u : UnitId) : Bool :=
  db.contracts.rows.any fun c => c.1 ≠ id && c.2.rents u

/-- The unit the contract is to move to is `dealt`, or stays with another holder. -/
def RentalDb.movesOnlyTo (db : RentalDb) (id : ContractId) (c : Tenancy) (dealt : Option UnitId) :
    Prop :=
  ∀ u ∈ c.scheduledUnitId, dealt = some u ∨ db.reservedOnlyFor id u = false

/-- A contract closed on the row that was read leaves no unit behind: if it is not over it is on the
unit that was read, if it is in force it was read so, and nobody else rents that unit. -/
structure ClosesAsRead (db : RentalDb) (id : ContractId) (existing c : Tenancy) : Prop where
  unit : c.status.isOver = false → c.unitId = existing.unitId
  live : c.inForce = true → existing.isLive = true ∨ c.isPendingPreOpening = true
  move : c.inForce = true → db.movesOnlyTo id c existing.scheduledUnitId
  others : existing.isLive = true → db.rentedByOther id existing.unitId = false

/-- A move that is left for a date finds none scheduled, and one that is made now leaves the unit that
was read and takes the scheduled one. -/
def FitsMove (db : RentalDb) (id : ContractId) (existing c : Tenancy) (newUnitId : UnitId) :
    Option Date → Prop
  | some _ => db.movesOnlyTo id c none
  | none => c.unitId = existing.unitId ∧ db.movesOnlyTo id c (some newUnitId)

/-- The stored contract `c` is, in what matters for the units, as the request has read it. -/
def FitsUnits (db : RentalDb) (clock : RentalClock) (id : ContractId) (existing c : Tenancy) :
    ContractRequest → Prop
  | .sign => c.unitId = existing.unitId
  | .cancel => ClosesAsRead db id existing c
  | .endContract => ClosesAsRead db id existing c
  | .requestEnd _ => c.inForce = true
  | .requestEndByCustomer _ => c.inForce = true
  | .cancelMoveOutByCustomer => c.inForce = true
  | .renew _ => existing.status = .ending → c.inForce = true
  | .changeUnit input => c.inForce = true ∧
    FitsMove db id existing c input.newUnitId (input.effectiveDate.filter (clock.today < ·))
  | .cancelScheduledMove => c.inForce = true → db.movesOnlyTo id c existing.scheduledUnitId

instance decidableMovesOnlyTo (db : RentalDb) (id : ContractId) (c : Tenancy)
    (dealt : Option UnitId) : Decidable (db.movesOnlyTo id c dealt) :=
  inferInstanceAs (Decidable (∀ u ∈ c.scheduledUnitId, _ ∨ _))

instance decidableClosesAsRead (db : RentalDb) (id : ContractId) (existing c : Tenancy) :
    Decidable (ClosesAsRead db id existing c) :=
  decidable_of_iff ((c.status.isOver = false → c.unitId = existing.unitId) ∧
    (c.inForce = true → existing.isLive = true ∨ c.isPendingPreOpening = true) ∧
    (c.inForce = true → db.movesOnlyTo id c existing.scheduledUnitId) ∧
    (existing.isLive = true → db.rentedByOther id existing.unitId = false))
    ⟨fun ⟨unit, live, move, others⟩ => ⟨unit, live, move, others⟩,
      fun h => ⟨h.unit, h.live, h.move, h.others⟩⟩

instance decidableFitsMove (db : RentalDb) (id : ContractId) (existing c : Tenancy)
    (newUnitId : UnitId) : (date : Option Date) → Decidable (FitsMove db id existing c newUnitId date)
  | some _ => decidableMovesOnlyTo db id c none
  | none => inferInstanceAs (Decidable (_ = _ ∧ db.movesOnlyTo id c _))

instance decidableFitsUnits (db : RentalDb) (clock : RentalClock) (id : ContractId)
    (existing c : Tenancy) :
    (request : ContractRequest) → Decidable (FitsUnits db clock id existing c request)
  | .sign => inferInstanceAs (Decidable (_ = _))
  | .cancel => decidableClosesAsRead db id existing c
  | .endContract => decidableClosesAsRead db id existing c
  | .requestEnd _ => inferInstanceAs (Decidable (_ = _))
  | .requestEndByCustomer _ => inferInstanceAs (Decidable (_ = _))
  | .cancelMoveOutByCustomer => inferInstanceAs (Decidable (_ = _))
  | .renew _ => inferInstanceAs (Decidable (_ = _ → _ = _))
  | .changeUnit _ => inferInstanceAs (Decidable (_ = _ ∧ FitsMove db id existing c _ _))
  | .cancelScheduledMove => inferInstanceAs (Decidable (_ = _ → db.movesOnlyTo id c _))

/-- What the row that a request has read still says of the stored one. -/
structure ReadOf (existing c : Tenancy) : Prop where
  fixed : c.fixed = existing.fixed
  present : c.deletedAt = none
  afterDraft : existing.status ≠ .draft → c.status ≠ .draft

section

variable {db db' : RentalDb} {clock : RentalClock} {id : ContractId} {existing c : Tenancy}

theorem ReadOf.pending (read : ReadOf existing c) :
    c.isPendingPreOpening = existing.isPendingPreOpening := by
  have := read.fixed
  simp only [Tenancy.fixed, Prod.mk.injEq] at this
  simp only [Contract.isPendingPreOpening, this]

variable {unit : StorageUnit} {u v : UnitId} {request : ContractRequest}

theorem held_of_not_only {u : UnitId} (found : db.units.find u = some unit) (reserved : unit.status = .reserved)
    (h : db.reservedOnlyFor id u = false) :
    db.heldBut (some id) u = true := by
  unfold RentalDb.reservedOnlyFor at h
  simpa [found, reserved] using h

theorem find_setUnitStatus {status : UnitStatus} {unit' : StorageUnit}
    (h : (db.setUnitStatus v status).units.find u = some unit') :
    ∃ unit, db.units.find u = some unit ∧
      unit'.status = if u = v then status else unit.status := by
  rcases Table.find_modify_cases h with ⟨other, found⟩ | ⟨rfl, unit, found, rfl⟩
  · exact ⟨unit', found, by rw [if_neg other]⟩
  · exact ⟨unit, found, by simp⟩

/-! ### Signing -/

variable {k : ReservationId} {r : Reservation} {f : Tenancy → Tenancy} {d : Tenancy} {input : CreateContractInput}

theorem find_convertOwn_of_ne (other : r.unitId ≠ existing.unitId) (row : db.reservations.find k = some r) :
    (db.convertOwnReservations id existing).reservations.find k = some r := by
  rw [Table.find_eq_some] at row ⊢
  refine List.mem_map.mpr ⟨(k, r), row, ?_⟩
  simp [other]

variable (before : Occupancy db) (stored : db.contracts.find id = some c)
include before stored

theorem sign_occupancy (read : ReadOf existing c) (fits : c.unitId = existing.unitId)
    (h : sign clock id existing db = .ok db') : Occupancy db' := by
  obtain ⟨draft, unit, facility, found, forSale, -, -, updated, units, reservations, waitlist, -⟩ :=
    sign_ok h
  apply before.modify stored updated.contracts
  · intro force k d row other live
    exact updated.free c k d stored force row other live
  have force : (existing.signed facility c).inForce = true := by
    simp [Tenancy.inForce, Tenancy.isLive, Tenancy.signed, read.present]
  intro u unit' found'
  rw [units] at found'
  obtain ⟨unit₀, found₀, status⟩ := find_setUnitStatus found'
  refine ⟨unit₀, found₀, ?_, ?_⟩
  · have signedRents : (existing.signed facility c).rents u = true ↔
        c.isPendingPreOpening = false ∧ c.unitId = u := by
      rw [rents_iff]
      exact ⟨fun rents => rents.2, fun rents => ⟨force, rents⟩⟩
    rw [signedRents, status, read.pending, fits]
    by_cases on : u = existing.unitId
    · subst on
      rw [found] at found₀
      cases found₀
      rcases forSale with forSale | forSale <;>
        cases existing.isPendingPreOpening <;> simp [forSale]
    · have apart : ¬existing.unitId = u := fun h => on h.symm
      simp [on, apart, Tenancy.rents, fits]
  · intro reserved
    rw [status] at reserved
    by_cases on : u = existing.unitId
    · subst on
      rw [if_pos rfl] at reserved
      have pending : existing.isPendingPreOpening = true := by
        cases pending : existing.isPendingPreOpening <;> simp [pending] at reserved ⊢
      rw [heldBut_iff]
      refine .inr (.inr ⟨id, existing.signed facility c, ?_, by simp, ?_⟩)
      · simp [updated.contracts, stored]
      · exact contractHolds_iff.mpr (.inr (.inl ⟨force, fits, read.pending.trans pending⟩))
    · rw [if_neg on] at reserved
      have held := before.held u unit₀ found₀ reserved
      -- only reservations of the unit of the contract change, so `u` keeps its holder
      have kept : ∀ k, db.keptForDraft u k = true → db'.keptForDraft u k = true := by
        intro k kept
        rw [keptForDraft_iff] at kept ⊢
        rw [reservations, waitlist]
        rcases kept with ⟨j, r, row, at_, rest⟩ | entry
        · refine .inl ⟨j, r, ?_, at_, rest⟩
          rw [find_convertOwn_of_ne (by rw [at_]; exact on) row]
        · exact .inr entry
      rw [heldBut_iff] at held ⊢
      rw [reservations, waitlist, updated.contracts]
      rcases held with ⟨j, r, row, at_, isOpen⟩ | notified | ⟨k, d, row, -, holds⟩
      · refine .inl ⟨j, r, ?_, at_, isOpen⟩
        rw [find_convertOwn_of_ne (by rw [at_]; exact on) row]
      · exact .inr (.inl notified)
      · have holds := contractHolds_congr (kept k) holds
        by_cases same : k = id
        · subst same
          rw [stored] at row
          cases row
          refine .inr (.inr ⟨k, existing.signed facility c, by simp [stored], by simp, ?_⟩)
          rcases contractHolds_iff.mp holds with ⟨-, at_, -⟩ | ⟨-, at_, -⟩ | ⟨-, move⟩
          · exact absurd (at_.symm.trans fits) on
          · exact absurd (at_.symm.trans fits) on
          · exact contractHolds_iff.mpr (.inr (.inr ⟨force, move⟩))
        · exact .inr (.inr ⟨k, d, by rw [Table.find_modify_ne _ same, row], by simp, holds⟩)

/-! ### Ending and cancelling -/

/-- A contract that is not over holds the unit it is on by itself. -/
def RentalDb.holdsOwn (db : RentalDb) (id : ContractId) (c : Tenancy) : Prop :=
  c.status = .draft ∧ (c.firstPaymentDeadline.isSome = true ∨ c.preOpening = true ∨
    db.keptForDraft c.unitId id = true) ∨ c.inForce = true ∧ c.isPendingPreOpening = true

theorem close_occupancy {closed freed : RentalDb} (closes : ClosesAsRead db id existing c)
    (isOver : (f c).status.isOver = true) (hclosed : closed = { db with contracts := db.contracts.modify id f })
    (found : db.units.find existing.unitId = some unit)
    (hfreed : freed = closed ∧ (unit.status = .occupied → existing.isLive = false) ∧
        (unit.status = .reserved → db.holdsOwn id c →
          closed.heldBut (some id) existing.unitId = true) ∨
      freed = closed.setUnitStatus existing.unitId .available ∧
        (unit.status = .reserved ∨ unit.status = .occupied ∧ existing.isLive = true)) :
    Occupancy (releaseScheduledUnit clock.now id existing freed) := by
  have notInForce : (f c).inForce = false := by
    revert isOver
    unfold Tenancy.inForce Tenancy.isLive
    cases (f c).status <;> simp [ContractStatus.isOver]
  have same : freed.reservations = db.reservations ∧ freed.waitlist = db.waitlist ∧
      freed.contracts = db.contracts.modify id f := by
    rcases hfreed with ⟨rfl, -⟩ | ⟨rfl, -⟩ <;> simp [hclosed]
  obtain ⟨reservations, waitlist, contracts⟩ := same
  have released : ∀ skip u, (releaseScheduledUnit clock.now id existing freed).heldBut skip u =
      freed.heldBut skip u := by
    intro skip u
    rw [releaseScheduledUnit_eq]
    rfl
  have onUnit : ∀ {u}, c.status.isOver = false → c.unitId = u → u = existing.unitId :=
    fun notOver on => on.symm.trans (closes.unit notOver)
  have live_of_force : c.inForce = true → c.status.isOver = false := by
    unfold Tenancy.inForce Tenancy.isLive
    cases c.status <;> simp [ContractStatus.isOver]
  have only : unit.status = .occupied → existing.isLive = true →
      c.rents existing.unitId = true := by
    intro occupied live
    obtain ⟨k, d, row, rents⟩ := (before.occupied _ _ found).mp occupied
    by_cases own : k = id
    · subst own
      rw [stored] at row
      cases row
      exact rents
    · have := closes.others live
      have other : db.rentedByOther id existing.unitId = true :=
        Table.any_rows.mpr ⟨k, d, row, by simp [own, rents]⟩
      rw [this] at other
      cases other
  apply before.modify stored (by rw [releaseScheduledUnit_contracts, contracts])
  · intro force
    rw [notInForce] at force
    cases force
  intro u unit' found'
  obtain ⟨unit₁, found₁, occupied, reserved⟩ := find_releaseScheduledUnit found'
  have notRents : (f c).rents u = false := by
    rw [Tenancy.rents, notInForce]
    rfl
  rcases hfreed with ⟨rfl, leftOccupied, leftReserved⟩ | ⟨rfl, hunit⟩
  · have found₀ : db.units.find u = some unit₁ := by rw [hclosed] at found₁; exact found₁
    refine ⟨unit₁, found₀, ?_, ?_⟩
    · rw [occupied, notRents]
      refine ⟨fun occ => .inr ⟨occ, ?_⟩, fun h => (h.resolve_left (by simp)).1⟩
      by_contra rents
      obtain ⟨force, started, on⟩ := rents_iff.mp (by simpa using rents)
      obtain rfl := onUnit (live_of_force force) on
      rw [found] at found₀
      cases found₀
      rcases closes.live force with live | pending
      · rw [leftOccupied occ] at live
        cases live
      · rw [started] at pending
        cases pending
    · intro still
      obtain ⟨was, moved⟩ := reserved still
      rw [released]
      apply held_modify (before.held u unit₁ found₀ was) stored reservations waitlist contracts
      intro holds
      rcases contractHolds_iff.mp holds with ⟨-, on, draft, given⟩ | ⟨force, on, pending⟩ |
        ⟨force, move⟩
      · obtain rfl := onUnit (by rw [draft]; rfl) on
        rw [found] at found₀
        cases found₀
        exact heldBut_none_of_some (leftReserved was (.inl ⟨draft, by rw [on]; exact given⟩))
      · obtain rfl := onUnit (live_of_force force) on
        rw [found] at found₀
        cases found₀
        exact heldBut_none_of_some (leftReserved was (.inr ⟨force, pending⟩))
      · rcases closes.move force u move with dealt | shared
        · exact heldBut_none_of_some (moved dealt)
        · exact held_of_others (held_of_not_only found₀ was shared) reservations waitlist contracts
  · obtain ⟨unit₀, found₀, status⟩ := find_setUnitStatus found₁
    have found₀ : db.units.find u = some unit₀ := by rw [hclosed] at found₀; exact found₀
    refine ⟨unit₀, found₀, ?_, ?_⟩
    · rw [occupied, notRents, status]
      by_cases on : u = existing.unitId
      · subst on
        rw [found] at found₀
        cases found₀
        rw [if_pos rfl]
        refine iff_of_false (by simp) ?_
        rintro (h | ⟨occ, none⟩)
        · cases h
        · rcases hunit with reserved | ⟨-, live⟩
          · rw [reserved] at occ
            cases occ
          · rw [only occ live] at none
            cases none
      · rw [if_neg on]
        refine ⟨fun occ => .inr ⟨occ, ?_⟩, fun h => (h.resolve_left (by simp)).1⟩
        by_contra rents
        obtain ⟨force, -, at_⟩ := rents_iff.mp (by simpa using rents)
        exact on (onUnit (live_of_force force) at_)
    · intro still
      obtain ⟨was, moved⟩ := reserved still
      rw [status] at was
      by_cases on : u = existing.unitId
      · rw [if_pos on] at was
        cases was
      · rw [if_neg on] at was
        rw [released]
        apply held_modify (before.held u unit₀ found₀ was) stored reservations waitlist contracts
        intro holds
        rcases contractHolds_iff.mp holds with ⟨-, at_, draft, -⟩ | ⟨force, at_, -⟩ | ⟨force, move⟩
        · exact absurd (onUnit (by rw [draft]; rfl) at_) on
        · exact absurd (onUnit (live_of_force force) at_) on
        · rcases closes.move force u move with dealt | shared
          · exact heldBut_none_of_some (moved dealt)
          · exact held_of_others (held_of_not_only found₀ was shared) reservations waitlist
              contracts

theorem endContract_occupancy (read : ReadOf existing c) (closes : ClosesAsRead db id existing c)
    (h : endContract clock id existing db = .ok db') : Occupancy db' := by
  obtain ⟨live, started, unit, ended, found, rfl, -, rfl⟩ := endContract_ok h
  apply close_occupancy (f := Tenancy.ended (existing.effectiveEnd clock.today)) before stored
    closes rfl rfl found
  by_cases occupied : unit.status = .occupied
  · rw [if_pos occupied]
    exact .inr ⟨rfl, .inr ⟨occupied, live⟩⟩
  · rw [if_neg occupied]
    refine .inl ⟨rfl, fun h => absurd h occupied, fun _ own => ?_⟩
    -- a contract that was read in force and started holds no reserved unit by itself
    rcases own with ⟨draft, -⟩ | ⟨-, pending⟩
    · refine absurd draft (read.afterDraft fun readDraft => ?_)
      simp [Tenancy.isLive, readDraft] at live
    · rw [read.pending, started] at pending
      cases pending

omit before stored in
theorem heldUnit_of_own {cancelled : RentalDb} (read : ReadOf existing c)
    (hcancelled : cancelled = { db with contracts := db.contracts.modify id f }) (own : db.holdsOwn id c) :
    heldUnit cancelled id existing = true := by
  have fixed := read.fixed
  simp only [Tenancy.fixed, Prod.mk.injEq] at fixed
  obtain ⟨-, preOpening, -, deadline⟩ := fixed
  unfold heldUnit
  rw [← deadline, ← preOpening, hcancelled]
  rcases own with ⟨-, hasDeadline | before | kept⟩ | ⟨-, pending⟩
  · simp [hasDeadline]
  · simp [before]
  · simp only [Bool.or_eq_true, Table.any_rows, decide_eq_true_eq]
    rcases keptForDraft_iff.mp kept with ⟨k, r, row, -, -, pointer⟩ | ⟨k, e, row, -, pointer⟩
    · exact .inl (.inr ⟨k, r, row, pointer⟩)
    · exact .inr ⟨k, e, row, pointer⟩
  · have := (Bool.and_eq_true _ _ ▸ pending : c.preOpening = true ∧ _).1
    simp [this]

theorem cancel_occupancy (read : ReadOf existing c) (closes : ClosesAsRead db id existing c)
    (h : cancel clock id existing db = .ok db') : Occupancy db' := by
  obtain ⟨-, unit, cancelled, found, hcancelled, -, rfl⟩ := cancel_ok h
  apply close_occupancy (f := Tenancy.cancelled) before stored closes rfl hcancelled found
  split
  · rename_i releasable
    simp only [Bool.or_eq_true, Bool.and_eq_true, decide_eq_true_eq] at releasable
    refine .inr ⟨rfl, ?_⟩
    rcases releasable with ⟨⟨reserved, -⟩, -⟩ | ⟨live, occupied⟩
    · exact .inl reserved
    · exact .inr ⟨occupied, live⟩
  · rename_i kept
    simp only [Bool.or_eq_true, Bool.and_eq_true, decide_eq_true_eq, not_or, not_and] at kept
    refine .inl ⟨rfl, fun occupied => ?_, fun reserved own => ?_⟩
    · by_contra live
      exact kept.2 (by simpa using live) occupied
    · have := kept.1 ⟨reserved, heldUnit_of_own read hcancelled own⟩
      exact heldBut_of_heldByOther (by simpa using this)

/-! ### Moving -/

theorem scheduleMove_occupancy {input : ChangeUnitInput} {date : Date} (force : c.inForce = true)
    (move : db.movesOnlyTo id c none) (h : scheduleMove clock id existing input date db = .ok db') :
    Occupancy db' := by
  obtain ⟨-, unit, found, available, -, updated, units, reservations, waitlist⟩ :=
    scheduleMove_ok h
  apply before.modify stored updated.contracts
  · intro still k d row other live
    exact updated.free c k d stored still row other live
  intro u unit' found'
  rw [units] at found'
  obtain ⟨unit₀, found₀, status⟩ := find_setUnitStatus found'
  refine ⟨unit₀, found₀, ?_, ?_⟩
  · have rents : (c.withScheduledMove input date).rents u = c.rents u := rfl
    rw [rents, status]
    have := before.occupied u unit₀ found₀
    by_cases on : u = input.newUnitId
    · subst on
      rw [found] at found₀
      cases found₀
      have free : c.rents input.newUnitId = false := by
        by_contra on
        have := this.mpr ⟨id, c, stored, by simpa using on⟩
        rw [available] at this
        cases this
      simp [free, available]
    · rw [if_neg on]
      constructor
      · intro occupied
        cases rented : c.rents u with
        | true => exact .inl rfl
        | false => exact .inr ⟨occupied, rfl⟩
      · rintro (rented | ⟨occupied, -⟩)
        · exact this.mpr ⟨id, c, stored, rented⟩
        · exact occupied
  · intro reserved
    have mine : ∀ v, (c.withScheduledMove input date).scheduledUnitId = some v →
        db'.heldBut none v = true := by
      intro v target
      rw [heldBut_iff, updated.contracts]
      refine .inr (.inr ⟨id, c.withScheduledMove input date, by simp [stored], by simp, ?_⟩)
      exact contractHolds_iff.mpr (.inr (.inr ⟨force, target⟩))
    rw [status] at reserved
    by_cases on : u = input.newUnitId
    · subst on
      exact mine _ rfl
    · rw [if_neg on] at reserved
      apply held_modify (before.held u unit₀ found₀ reserved) stored reservations waitlist
        updated.contracts
      intro holds
      rcases contractHolds_iff.mp holds with ⟨-, -, draft, -⟩ | ⟨-, at_, pending⟩ | ⟨-, target⟩
      · rw [Tenancy.inForce, Tenancy.isLive, draft] at force
        cases force
      · rw [heldBut_iff, updated.contracts]
        refine .inr (.inr ⟨id, c.withScheduledMove input date, by simp [stored], by simp, ?_⟩)
        exact contractHolds_iff.mpr (.inr (.inl ⟨force, at_, pending⟩))
      · rcases move u target with dealt | shared
        · cases dealt
        · exact held_of_others (held_of_not_only found₀ reserved shared) reservations waitlist
            updated.contracts

theorem moveNow_occupancy {input : ChangeUnitInput} (read : ReadOf existing c) (force : c.inForce = true)
    (on : c.unitId = existing.unitId) (move : db.movesOnlyTo id c (some input.newUnitId))
    (h : moveNow clock id existing input db = .ok db') : Occupancy db' := by
  obtain ⟨newUnit, oldUnit, foundNew, foundOld, forSale, -, updated, units, reservations,
    waitlist⟩ := moveNow_ok h
  have movedForce : (c.moved input).inForce = true := force
  apply before.modify stored updated.contracts
  · intro still k d row other live
    exact updated.free c k d stored still row other live
  intro u unit' found'
  rw [units] at found'
  obtain ⟨unit₁, found₁, status⟩ := find_setUnitStatus found'
  obtain ⟨unit₀, found₀, left⟩ : ∃ unit₀, db.units.find u = some unit₀ ∧
      unit₁.status = if u = existing.unitId ∧
        (unit₀.status = .occupied ∨ unit₀.status = .reserved) then .available else unit₀.status := by
    unfold RentalDb.leave at found₁
    split_ifs at found₁ with freed
    · obtain ⟨unit₀, found₀, status⟩ := find_setUnitStatus found₁
      refine ⟨unit₀, found₀, ?_⟩
      rw [status]
      by_cases at_ : u = existing.unitId
      · subst at_
        rw [foundOld] at found₀
        cases found₀
        simp [freed]
      · simp [at_]
    · refine ⟨unit₁, found₁, ?_⟩
      by_cases at_ : u = existing.unitId
      · subst at_
        rw [foundOld] at found₁
        cases found₁
        simp [freed]
      · simp [at_]
  have movedRents : (c.moved input).rents u = true ↔
      existing.isPendingPreOpening = false ∧ input.newUnitId = u := by
    rw [rents_iff, ← read.pending]
    exact ⟨fun rents => rents.2, fun rents => ⟨movedForce, rents⟩⟩
  refine ⟨unit₀, found₀, ?_, ?_⟩
  · rw [movedRents, status]
    by_cases toNew : u = input.newUnitId
    · subst toNew
      rw [foundNew] at found₀
      cases found₀
      rcases forSale with free | ⟨free, -⟩ <;>
        cases existing.isPendingPreOpening <;> simp [free]
    · have notNew : ¬input.newUnitId = u := fun h => toNew h.symm
      rw [if_neg toNew, left]
      by_cases fromOld : u = existing.unitId
      · subst fromOld
        have rents : unit₀.status = .occupied → c.rents existing.unitId = true := by
          intro occupied
          obtain ⟨k, d, row, rents⟩ := (before.occupied _ _ found₀).mp occupied
          obtain ⟨live, -, at_⟩ := rents_iff.mp rents
          obtain rfl := before.alone k id d c row stored live force (at_.trans on.symm)
          rw [stored] at row
          cases row
          exact rents
        by_cases occupied : unit₀.status = .occupied
        · simp [occupied, notNew, rents occupied]
        · by_cases reserved : unit₀.status = .reserved <;> simp [occupied, reserved, notNew]
      · have elsewhere : c.rents u = false := by
          by_contra rents
          obtain ⟨-, -, at_⟩ := rents_iff.mp (by simpa using rents)
          exact fromOld (at_.symm.trans on)
        simp [fromOld, notNew, elsewhere]
  · intro reserved
    rw [status] at reserved
    by_cases toNew : u = input.newUnitId
    · subst toNew
      rw [if_pos rfl] at reserved
      have pending : existing.isPendingPreOpening = true := by
        cases pending : existing.isPendingPreOpening <;> simp [pending] at reserved ⊢
      rw [heldBut_iff, updated.contracts]
      refine .inr (.inr ⟨id, c.moved input, by simp [stored], by simp, ?_⟩)
      exact contractHolds_iff.mpr (.inr (.inl ⟨movedForce, rfl, read.pending.trans pending⟩))
    · rw [if_neg toNew, left] at reserved
      split_ifs at reserved with freed
      have notOld : u ≠ existing.unitId := fun at_ => freed ⟨at_, .inr reserved⟩
      apply held_modify (before.held u unit₀ found₀ reserved) stored reservations waitlist
        updated.contracts
      intro holds
      rcases contractHolds_iff.mp holds with ⟨-, at_, -⟩ | ⟨-, at_, -⟩ | ⟨-, target⟩
      · exact absurd (at_.symm.trans on) notOld
      · exact absurd (at_.symm.trans on) notOld
      · rcases move u target with dealt | shared
        · exact absurd (Option.some.inj dealt).symm toNew
        · exact held_of_others (held_of_not_only found₀ reserved shared) reservations waitlist
            updated.contracts

theorem cancelScheduledMove_occupancy (move : c.inForce = true → db.movesOnlyTo id c existing.scheduledUnitId)
    (h : cancelScheduledMove clock id existing db = .ok db') : Occupancy db' := by
  obtain ⟨updated, units, reservations, waitlist⟩ := cancelScheduledMove_ok h
  apply before.modify stored updated.contracts
  · intro still k d row other live
    exact updated.free c k d stored still row other live
  intro u unit' found'
  rw [units] at found'
  obtain ⟨unit₀, found₀, occupied, reserved⟩ := find_releaseScheduledUnit found'
  have rents : c.withoutScheduledMove.rents u = c.rents u := rfl
  refine ⟨unit₀, found₀, ?_, fun still => ?_⟩
  · rw [occupied, rents]
    have := before.occupied u unit₀ found₀
    constructor
    · intro occ
      cases rented : c.rents u with
      | true => exact .inl rfl
      | false => exact .inr ⟨occ, rfl⟩
    · rintro (rented | ⟨occ, -⟩)
      · exact this.mpr ⟨id, c, stored, rented⟩
      · exact occ
  · obtain ⟨was, moved⟩ := reserved still
    apply held_modify (before.held u unit₀ found₀ was) stored reservations waitlist
      updated.contracts
    intro holds
    have own : c.deletedAt = none ∧ c.unitId = u ∧ c.status = .draft ∧
          (c.firstPaymentDeadline.isSome = true ∨ c.preOpening = true ∨
            db.keptForDraft u id = true) ∨
        c.inForce = true ∧ c.unitId = u ∧ c.isPendingPreOpening = true →
        db'.heldBut none u = true := by
      intro own
      rw [heldBut_iff, updated.contracts]
      refine .inr (.inr ⟨id, c.withoutScheduledMove, by simp [stored], by simp, ?_⟩)
      have before : db.contractHolds id c.withoutScheduledMove u = true :=
        contractHolds_iff.mpr (own.imp_right Or.inl)
      apply contractHolds_congr _ before
      unfold RentalDb.keptForDraft
      rw [reservations, waitlist]
      exact fun h => h
    rcases contractHolds_iff.mp holds with draft | pending | ⟨force, target⟩
    · exact own (.inl draft)
    · exact own (.inr pending)
    · rcases move force u target with dealt | shared
      · exact held_of_others (moved dealt) reservations waitlist updated.contracts
      · exact held_of_others (held_of_not_only found₀ was shared) reservations waitlist
          updated.contracts

/-! ### Changing the end -/

theorem kept_occupancy
    (status : (f c).status = c.status ∨ c.inForce = true ∧ ((f c).status = .active ∨ (f c).status = .ending))
    (fixed : (f c).fixed = c.fixed) (unit : (f c).unitId = c.unitId)
    (move : (f c).scheduledUnitId = c.scheduledUnitId)
    (free : (f c).inForce = true → ∀ k d, db.contracts.find k = some d → k ≠ id →
      d.inForce = true → d.unitId ≠ (f c).unitId) : Occupancy { db with contracts := db.contracts.modify id f } := by
  simp only [Tenancy.fixed, Prod.mk.injEq] at fixed
  obtain ⟨deleted, preOpening, startedAt, deadline⟩ := fixed
  have pending : (f c).isPendingPreOpening = c.isPendingPreOpening := by
    simp only [Contract.isPendingPreOpening, preOpening, startedAt]
  have force : (f c).inForce = c.inForce := by
    rcases status with same | ⟨force, now⟩
    · simp only [Tenancy.inForce, Tenancy.isLive, same, deleted]
    · rw [force]
      simp only [Tenancy.inForce, Bool.and_eq_true] at force
      rcases now with now | now <;> simp [Tenancy.inForce, Tenancy.isLive, now, deleted, force.2]
  have rents : ∀ u, (f c).rents u = c.rents u := fun u => by
    simp only [Tenancy.rents, force, pending, unit]
  obtain ⟨db', same⟩ : ∃ db' : RentalDb, db' = { db with contracts := db.contracts.modify id f } :=
    ⟨_, rfl⟩
  have contracts : db'.contracts = db.contracts.modify id f := by rw [same]
  rw [← same]
  apply before.modify stored contracts free
  intro u unit' found'
  rw [same] at found'
  refine ⟨unit', found', ?_, fun reserved => ?_⟩
  · rw [rents, before.occupied u unit' found']
    constructor
    · intro rented
      cases own : c.rents u with
      | true => exact .inl rfl
      | false => exact .inr ⟨rented, rfl⟩
    · rintro (own | ⟨rented, -⟩)
      · exact ⟨id, c, stored, own⟩
      · exact rented
  · apply held_modify (before.held u unit' found' reserved) stored (by rw [same]) (by rw [same])
      contracts
    intro holds
    have kept : db'.keptForDraft u id = db.keptForDraft u id := by rw [same]; rfl
    rw [heldBut_iff, contracts]
    refine .inr (.inr ⟨id, f c, by simp [stored], by simp, ?_⟩)
    rw [contractHolds_iff] at holds ⊢
    rw [kept, force, unit, pending, move, deleted, deadline, preOpening]
    rcases holds with ⟨gone, on, draft, given⟩ | pending | target
    · rcases status with same | ⟨live, -⟩
      · exact .inl ⟨gone, on, same.trans draft, given⟩
      · rw [Tenancy.inForce, Tenancy.isLive, draft] at live
        cases live
    · exact .inr (.inl pending)
    · exact .inr (.inr target)

theorem setEnd_occupancy {taken : Failure}
    (status : (f c).status = c.status ∨ c.inForce = true ∧ ((f c).status = .active ∨ (f c).status = .ending))
    (fixed : (f c).fixed = c.fixed) (unit : (f c).unitId = c.unitId)
    (move : (f c).scheduledUnitId = c.scheduledUnitId) (h : db.updateContract id taken f = .ok db') :
    Occupancy db' := by
  obtain ⟨updated, rfl⟩ := updateContract_updated h
  apply kept_occupancy before stored status fixed unit move
  intro still k d row other live
  exact updated.free c k d stored still row other live

theorem commit_occupancy (read : ReadOf existing c) (fits : FitsUnits db clock id existing c request)
    (h : db.commit clock id existing request = .ok db') : Occupancy db' := by
  cases request with
  | sign => exact sign_occupancy before stored read fits h
  | cancel => exact cancel_occupancy before stored read fits h
  | endContract => exact endContract_occupancy before stored read fits h
  | requestEnd endDate =>
    obtain ⟨written, made, updated⟩ := Outcome.bind_ok h
    exact setEnd_occupancy before stored (.inr ⟨fits, .inr (requestEnd_status made).2⟩) rfl rfl rfl
      updated
  | requestEndByCustomer endDate =>
    obtain ⟨written, made, updated⟩ := Outcome.bind_ok h
    exact setEnd_occupancy before stored (.inr ⟨fits, .inr (requestEndByCustomer_status made).2⟩)
      rfl rfl rfl updated
  | cancelMoveOutByCustomer =>
    obtain ⟨written, made, updated⟩ := Outcome.bind_ok h
    have status := cancelMoveOutByCustomer_status made
    exact setEnd_occupancy before stored (.inr ⟨fits, .inl status⟩) rfl rfl rfl updated
  | renew months =>
    obtain ⟨written, made, updated⟩ := Outcome.bind_ok h
    refine setEnd_occupancy before stored ?_ rfl rfl rfl updated
    by_cases ending : existing.status = .ending
    · refine .inr ⟨fits ending, .inl ?_⟩
      simp [Tenancy.renewed, ending, renew_status made]
    · left
      simp [Tenancy.renewed, ending]
  | changeUnit input =>
    obtain ⟨force, move⟩ := fits
    simp only [RentalDb.commit, changeUnit] at h
    replace h := Outcome.passed (Outcome.passed (Outcome.passed h))
    cases later : input.effectiveDate.filter (clock.today < ·) with
    | none =>
      rw [later] at h move
      exact moveNow_occupancy before stored read force move.1 move.2 h
    | some date =>
      rw [later] at h move
      obtain ⟨_, -, h⟩ := Outcome.bind_ok h
      exact scheduleMove_occupancy before stored force move h
  | cancelScheduledMove => exact cancelScheduledMove_occupancy before stored fits h

omit stored

/-! ### Creating -/

structure DraftOn (db : RentalDb) (id : ContractId) (u : UnitId) (d : Tenancy) : Prop where
  row : db.contracts.find id = some d
  draft : d.status = .draft
  present : d.deletedAt = none
  unit : d.unitId = u

theorem push_occupancy (draft : d.status = .draft) : Occupancy { db with contracts := db.contracts.push d } := by
  have idle : d.inForce = false := by simp [Tenancy.inForce, Tenancy.isLive, draft]
  have old : ∀ {k c}, (db.contracts.push d).find k = some c → c.inForce = true →
      db.contracts.find k = some c := by
    intro k c row force
    rw [Table.find_push] at row
    split_ifs at row
    · cases row
      rw [idle] at force
      cases force
    · exact row
  constructor
  · intro u unit found
    rw [before.occupied u unit found]
    constructor
    · rintro ⟨k, c, row, rents⟩
      exact ⟨k, c, Table.find_push_of_some row d, rents⟩
    · rintro ⟨k, c, row, rents⟩
      exact ⟨k, c, old row (rents_iff.mp rents).1, rents⟩
  · intro k k' c c' row row' force force' unit
    exact before.alone k k' c c' (old row force) (old row' force') force force' unit
  · intro u unit found reserved
    have held := before.held u unit found reserved
    rw [heldBut_iff] at held ⊢
    rcases held with reservation | notified | ⟨k, c, row, -, holds⟩
    · exact .inl reservation
    · exact .inr (.inl notified)
    · exact .inr (.inr ⟨k, c, Table.find_push_of_some row d, by simp, holds⟩)

omit before

theorem DraftOn.held {u : UnitId} (on : DraftOn db id u d) (kept : db.keptForDraft u id = true) :
    db.heldBut none u = true := by
  rw [heldBut_iff]
  refine .inr (.inr ⟨id, d, on.row, by simp, ?_⟩)
  exact contractHolds_iff.mpr (.inl ⟨on.present, on.unit, on.draft, .inr (.inr kept)⟩)

theorem markConverted_occupancy (before : Occupancy db) (on : DraftOn db id r.unitId d)
    (row : db.reservations.find k = some r) (isOpen : r.isOpen = true) :
    Occupancy (db.markConverted k id) := by
  refine ⟨before.occupied, before.alone, fun u unit found reserved => ?_⟩
  have others : ∀ {j r'}, j ≠ k → db.reservations.find j = some r' →
      (db.markConverted k id).reservations.find j = some r' := fun {j r'} apart found => by
    rw [RentalDb.markConverted, Table.find_modify_ne _ apart, found]
  rcases heldBut_iff.mp (before.held u unit found reserved) with
    ⟨j, r', found', at_, open'⟩ | notified | ⟨m, c, found', -, holds⟩
  · by_cases same : j = k
    · subst same
      rw [row] at found'
      cases found'
      subst at_
      have on' : DraftOn (db.markConverted j id) id r.unitId d :=
        ⟨on.row, on.draft, on.present, on.unit⟩
      apply on'.held
      exact keptForDraft_iff.mpr (.inl ⟨j, r.convertedTo id, by
        simp [RentalDb.markConverted, row], rfl, rfl, rfl⟩)
    · exact heldBut_iff.mpr (.inl ⟨j, r', others same found', at_, open'⟩)
  · exact heldBut_iff.mpr (.inr (.inl notified))
  · refine heldBut_iff.mpr (.inr (.inr ⟨m, c, found', by simp, contractHolds_congr ?_ holds⟩))
    intro kept
    rw [keptForDraft_iff] at kept ⊢
    rcases kept with ⟨j, r', found', at_, converted, pointer⟩ | entry
    · refine .inl ⟨j, r', others ?_ found', at_, converted, pointer⟩
      rintro rfl
      rw [row] at found'
      cases found'
      rw [Reservation.isOpen, converted] at isOpen
      cases isOpen
    · exact .inr entry

theorem closeEntry_held {k : WaitlistEntryId} {e : WaitlistEntry} {onOther : Bool} (entries : EntriesOpen db)
    (on : DraftOn db id v d) (row : db.waitlist.find k = some e) (isOpen : e.isOpen = true)
    (keeps : e.heldUnitId = some u → onOther = false ∧ v = u) (held : db.heldBut none u = true) :
    (db.closeEntry k id onOther).heldBut none u = true := by
  have others : ∀ {j e'}, j ≠ k → db.waitlist.find j = some e' →
      (db.closeEntry k id onOther).waitlist.find j = some e' := fun {j e'} apart found => by
    rw [RentalDb.closeEntry, Table.find_modify_ne _ apart, found]
  rcases heldBut_iff.mp held with reservation | ⟨j, e', found', at_, notified⟩ |
    ⟨m, c, found', -, holds⟩
  · exact heldBut_iff.mpr (.inl reservation)
  · by_cases same : j = k
    · subst same
      rw [row] at found'
      cases found'
      obtain ⟨rfl, rfl⟩ := keeps at_
      have on' : DraftOn (db.closeEntry j id false) id v d :=
        ⟨on.row, on.draft, on.present, on.unit⟩
      apply on'.held
      refine keptForDraft_iff.mpr (.inr ⟨j, { e with
        status := .converted
        convertedContractId := some id }, ?_, at_, rfl⟩)
      simp [RentalDb.closeEntry, row]
    · exact heldBut_iff.mpr (.inr (.inl ⟨j, e', others same found', at_, notified⟩))
  · refine heldBut_iff.mpr (.inr (.inr ⟨m, c, found', by simp, contractHolds_congr ?_ holds⟩))
    intro kept
    rw [keptForDraft_iff] at kept ⊢
    rcases kept with reservation | ⟨j, e', found', at_, pointer⟩
    · exact .inl reservation
    · refine .inr ⟨j, e', others ?_ found', at_, pointer⟩
      rintro rfl
      rw [row] at found'
      cases found'
      rw [entries j e row isOpen] at pointer
      cases pointer

theorem convertWaitlistEntry_occupancy (now : Instant) (before : Occupancy db) (entries : EntriesOpen db)
    (on : DraftOn db id input.unitId d) :
    Occupancy (convertWaitlistEntry now id input db) := by
  unfold convertWaitlistEntry
  split
  · exact before
  rename_i k _
  split
  · exact before
  rename_i e found
  simp only [Option.filter_eq_some_iff] at found
  obtain ⟨row, isOpen⟩ := found
  split
  · rename_i v other
    simp only [Option.filter_eq_some_iff, decide_eq_true_eq] at other
    obtain ⟨gives, apart⟩ := other
    have contracts : (releaseReservedUnit now { unitId := v } (db.closeEntry k id true)).contracts =
        db.contracts := releaseReservedUnit_contracts _ _
    have released : ∀ u, (releaseReservedUnit now { unitId := v }
        (db.closeEntry k id true)).heldBut none u = (db.closeEntry k id true).heldBut none u := by
      intro u
      rw [releaseReservedUnit_eq]
      rfl
    constructor
    · intro u unit' found'
      obtain ⟨unit, found, occupied, -⟩ := find_releaseReservedUnit found'
      rw [occupied, contracts]
      exact before.occupied u unit found
    · rw [contracts]
      exact before.alone
    · intro u unit' found' reserved
      obtain ⟨unit, found, -, still⟩ := find_releaseReservedUnit found'
      obtain ⟨was, held⟩ := still reserved
      rw [released]
      by_cases same : u = v
      · exact held same
      · apply closeEntry_held entries on row isOpen _ (before.held u unit found was)
        intro at_
        rw [gives] at at_
        exact absurd (Option.some.inj at_).symm same
  · rename_i none
    refine ⟨before.occupied, before.alone, fun u unit found reserved => ?_⟩
    apply closeEntry_held entries on row isOpen _ (before.held u unit found reserved)
    intro at_
    refine ⟨rfl, ?_⟩
    by_contra apart
    rw [at_] at none
    simp only [Option.filter_some, decide_not, ite_eq_right_iff, reduceCtorEq, imp_false,
      Bool.not_eq_true', decide_eq_false_iff_not, not_not] at none
    exact apart none.symm

theorem readReservation_ok (h : readReservation input db = .ok (some (k, r))) :
    db.reservations.find k = some r ∧ r.isOpen = true ∧ r.unitId = input.unitId := by
  unfold readReservation at h
  split at h
  · cases h
  · obtain ⟨r', found, h⟩ := Outcome.bind_ok h
    obtain ⟨_, fits, h⟩ := Outcome.bind_ok h
    cases h
    have found := orFail_ok found
    simp only [Option.filter_eq_some_iff] at found
    refine ⟨found.1, found.2, ?_⟩
    by_contra apart
    exact refuseIf_ok fits (.inl apart)

theorem create_occupancy (before : Occupancy db) (entries : EntriesOpen db) (h : create clock input db = .ok db') :
    Occupancy db' := by
  obtain ⟨⟨customer, facility, reservation⟩, read, rfl⟩ := create_ok h
  have drafted := push_occupancy (d := draftContract clock.today customer facility input) before rfl
  have on : DraftOn { db with
      contracts := db.contracts.push (draftContract clock.today customer facility input) }
      db.contracts.nextKey input.unitId (draftContract clock.today customer facility input) :=
    ⟨by simp [Table.find_push], rfl, rfl, rfl⟩
  have closed := convertWaitlistEntry_occupancy clock.now drafted entries on
  have on' : DraftOn (convertWaitlistEntry clock.now db.contracts.nextKey input { db with
      contracts := db.contracts.push (draftContract clock.today customer facility input) })
      db.contracts.nextKey input.unitId (draftContract clock.today customer facility input) :=
    ⟨by rw [convertWaitlistEntry_contracts]; exact on.row, rfl, rfl, rfl⟩
  cases reservation with
  | none => exact closed
  | some found =>
    obtain ⟨k, r⟩ := found
    obtain ⟨row, isOpen, at_⟩ := readReservation_ok read
    rw [← at_] at on'
    have marked := markConverted_occupancy closed on'
      (by rw [convertWaitlistEntry_reservations]; exact row) isOpen
    unfold writeContract convertReservation
    split
    · exact closed
    · rename_i same
      cases same
      split
      · exact marked
      · apply kept_occupancy marked (c := draftContract clock.today customer facility input) on'.row
          (.inl rfl) rfl rfl rfl
        intro force
        cases force

theorem create_entriesOpen (entries : EntriesOpen db) (h : create clock input db = .ok db') : EntriesOpen db' := by
  obtain ⟨⟨customer, facility, reservation⟩, -, rfl⟩ := create_ok h
  have waitlist : ∀ credit (db₁ : RentalDb), (convertReservation db.contracts.nextKey reservation
      credit db₁).waitlist = db₁.waitlist := by
    intro credit db₁
    unfold convertReservation
    split
    · rfl
    · split <;> rfl
  unfold EntriesOpen writeContract
  rw [waitlist]
  have closed : ∀ k onOther, EntriesOpen (RentalDb.closeEntry { db with
      contracts := db.contracts.push (draftContract clock.today customer facility input) } k
      db.contracts.nextKey onOther) := by
    intro k onOther j e row isOpen
    rcases Table.find_modify_cases row with ⟨-, found⟩ | ⟨-, e', -, rfl⟩
    · exact entries j e found isOpen
    · cases isOpen
  unfold convertWaitlistEntry
  split
  · exact entries
  · split
    · exact entries
    · split
      · rw [releaseReservedUnit_eq]
        exact closed _ _
      · exact closed _ _

theorem commit_waitlist (h : db.commit clock id existing request = .ok db') : db'.waitlist = db.waitlist := by
  have setEnd : ∀ {taken : Failure} {f : Tenancy → Tenancy},
      db.updateContract id taken f = .ok db' → db'.waitlist = db.waitlist := by
    intro taken f updated
    rw [(updateContract_updated updated).2]
  cases request with
  | sign =>
    obtain ⟨-, _, _, -, -, -, -, -, -, -, waitlist, -⟩ := sign_ok h
    exact waitlist
  | cancel =>
    obtain ⟨-, unit, cancelled, -, rfl, -, rfl⟩ := cancel_ok h
    rw [releaseScheduledUnit_eq]
    split <;> rfl
  | requestEnd endDate =>
    obtain ⟨_, -, updated⟩ := Outcome.bind_ok h
    exact setEnd updated
  | requestEndByCustomer endDate =>
    obtain ⟨_, -, updated⟩ := Outcome.bind_ok h
    exact setEnd updated
  | cancelMoveOutByCustomer =>
    obtain ⟨_, -, updated⟩ := Outcome.bind_ok h
    exact setEnd updated
  | renew months =>
    obtain ⟨_, -, updated⟩ := Outcome.bind_ok h
    exact setEnd updated
  | endContract =>
    obtain ⟨-, -, unit, ended, -, rfl, -, rfl⟩ := endContract_ok h
    rw [releaseScheduledUnit_eq]
    split <;> rfl
  | changeUnit input =>
    obtain ⟨-, -, moved | ⟨-, date, scheduled⟩⟩ := changeUnit_ok h
    · obtain ⟨_, _, -, -, -, -, -, -, -, waitlist⟩ := moveNow_ok moved
      exact waitlist
    · obtain ⟨-, _, -, -, -, -, -, -, waitlist⟩ := scheduleMove_ok scheduled
      exact waitlist
  | cancelScheduledMove =>
    obtain ⟨-, -, -, waitlist⟩ := cancelScheduledMove_ok h
    exact waitlist

end

end StorageOS
