import StorageOS.Contracts.UnitSteps

/-! The status of the units under requests that overlap: it stays true in every run whose requests
write on contracts that are still as they have been read. -/

namespace StorageOS

open Transition Processes

/-- The stored contract is, in what matters for the units, as the request under way has read it. -/
def unitsAsRead (db : RentalDb) : RentalProcess → RentalClock → Prop
  | .write id existing request, clock =>
    ∀ c ∈ db.contracts.find id, FitsUnits db clock id existing c request
  | .create _, _ => True
  | .move _ _, _ => True

instance decidableUnitsAsRead (db : RentalDb) :
    (process : RentalProcess) → (clock : RentalClock) → Decidable (unitsAsRead db process clock)
  | .write id existing request, clock => inferInstanceAs (Decidable
      (∀ c ∈ db.contracts.find id, FitsUnits db clock id existing c request))
  | .create _, _ => inferInstanceAs (Decidable True)
  | .move _ _, _ => inferInstanceAs (Decidable True)

/-- What a request under way has read of its contract is still true of the stored one. -/
def ReadFrom (db : RentalDb) : RentalProcess → Prop
  | .write id existing _ => ∃ c, db.contracts.find id = some c ∧ ReadOf existing c
  | .create _ => True
  | .move _ _ => True

section

variable {db db' : RentalDb} {process : RentalProcess} {clock : RentalClock}
  {rest : Option RentalProcess}

theorem advance_occupancy (before : Occupancy db) (entries : EntriesOpen db)
    (read : ReadFrom db process) (current : unitsAsRead db process clock)
    (h : db.advance clock process = some (db', rest)) : Occupancy db' ∧ EntriesOpen db' := by
  rcases advance_cases h with ⟨input, rfl, made, -⟩ | ⟨id, existing, request, rfl, made, -⟩ |
    ⟨id, input, existing, rfl, -, rfl, -⟩
  · exact ⟨create_occupancy before entries made, create_entriesOpen entries made⟩
  · obtain ⟨c, stored, readOf⟩ := read
    refine ⟨commit_occupancy before stored readOf (current c stored) made, ?_⟩
    rw [EntriesOpen, commit_waitlist made]
    exact entries
  · exact ⟨before, entries⟩

theorem advance_readFrom {other : RentalProcess} (h : db.advance clock process = some (db', rest))
    (read : ReadFrom db other) : ReadFrom db' other := by
  cases other with
  | create input => trivial
  | move id input => trivial
  | write k read₀ asked =>
    obtain ⟨c, stored, readOf⟩ := read
    rcases advance_cases h with ⟨input, rfl, made, -⟩ | ⟨id, existing, request, rfl, made, -⟩ |
      ⟨id, input, existing, rfl, -, rfl, -⟩
    · exact ⟨c, find_create made stored, readOf⟩
    · obtain ⟨c', stored', notDraft⟩ := advance_afterDraft h stored
      obtain ⟨⟨f, -, contracts, writes⟩, -⟩ := commit_status made
      refine ⟨c', stored', ?_⟩
      have fixed : c'.fixed = c.fixed := by
        by_cases same : k = id
        · subst same
          rw [contracts, Table.find_modify_self, stored] at stored'
          cases stored'
          exact writes.fixed c
        · rw [contracts, Table.find_modify_ne _ same, stored] at stored'
          cases stored'
          rfl
      refine ⟨fixed.trans readOf.fixed, ?_, fun after => notDraft (readOf.afterDraft after)⟩
      exact (congrArg (·.1) fixed).trans readOf.present
    · exact ⟨c, stored, readOf⟩

theorem findContract_readFrom {id : ContractId} {existing : Tenancy} {request : ContractRequest}
    (h : db.findContract id = some existing) : ReadFrom db (.write id existing request) := by
  simp only [RentalDb.findContract, Option.filter_eq_some_iff, Option.isNone_iff_eq_none] at h
  exact ⟨existing, h.1, rfl, h.2, fun after => after⟩

theorem enter_readFrom {request : RentalRequest} (h : db.enter request = some process) :
    ReadFrom db process := by
  cases request with
  | create input =>
    cases h
    trivial
  | onContract id request =>
    simp only [RentalDb.enter, Option.map_eq_some_iff] at h
    obtain ⟨existing, found, rfl⟩ := h
    exact findContract_readFrom found
  | applyScheduledMove id today =>
    simp only [RentalDb.enter, Option.map_eq_some_iff] at h
    obtain ⟨input, -, rfl⟩ := h
    trivial

end

/-- In every run from statuses that are true, whose requests write on contracts that are still as
they have been read, a unit is occupied exactly when one contract rents it, no two contracts in force
are on one unit, and every reserved unit has a holder. -/
theorem units_tell_truth {start s : State RentalDb RentalProcess} (idle : start.running = [])
    (begins : Occupancy start.db) (entries : EntriesOpen start.db)
    (run : Run rentals.step (System.admits unitsAsRead) start s) :
    (∀ u unit, s.db.units.find u = some unit →
      (unit.status = .occupied ↔ ∃! k, ∃ c, s.db.contracts.find k = some c ∧ c.rents u = true) ∧
      (unit.status = .reserved → s.db.heldBut none u = true)) ∧
    ∀ k k' c c', s.db.contracts.find k = some c → s.db.contracts.find k' = some c' →
      c.inForce = true → c'.inForce = true → c.unitId = c'.unitId → k = k' := by
  have all := System.invariant (P := fun db => Occupancy db ∧ EntriesOpen db)
    (Q := ReadFrom) run ⟨begins, entries⟩ (by simp [idle])
    (fun _ entered => enter_readFrom entered)
    (fun {db process clock db' rest} before read current made =>
      ⟨advance_occupancy before.1 before.2 read current made, ?_,
        fun other => advance_readFrom made⟩)
  · obtain ⟨⟨now, -⟩, -⟩ := all
    refine ⟨fun u unit found => ⟨?_, now.held u unit found⟩, now.alone⟩
    rw [now.occupied u unit found]
    constructor
    · rintro ⟨k, c, row, rents⟩
      refine ⟨k, ⟨c, row, rents⟩, ?_⟩
      rintro k' ⟨c', row', rents'⟩
      obtain ⟨force, -, on⟩ := rents_iff.mp rents
      obtain ⟨force', -, on'⟩ := rents_iff.mp rents'
      exact now.alone k' k c' c row' row force' force (on'.trans on.symm)
    · rintro ⟨k, ⟨c, row, rents⟩, -⟩
      exact ⟨k, c, row, rents⟩
  · rintro process' rfl
    rcases advance_cases made with ⟨_, -, -, done⟩ | ⟨_, _, _, -, -, done⟩ |
      ⟨id, input, existing, -, found, rfl, continues⟩
    · cases done
    · cases done
    · cases continues
      exact findContract_readFrom found

def threeUnits (status : ContractStatus) (unit : UnitStatus) : RentalDb :=
  let db := oneContract status unit
  { db with units := (db.units.push ⟨0, .available, 8000⟩).push ⟨0, .available, 8000⟩ }

def RentalDb.unitStatus (db : RentalDb) (u : UnitId) : Option UnitStatus :=
  (db.units.find u).map (·.status)

theorem threeUnits_entriesOpen (status : ContractStatus) (unit : UnitStatus) :
    EntriesOpen (threeUnits status unit) := by
  intro k e row
  cases row

def moveTo (u : UnitId) (date : Option Date) : RentalRequest :=
  .onContract 0 (.changeUnit ⟨u, none, false, date⟩)

/-- A contract is signed, its move is scheduled and made by the job, and it ends. -/
theorem units_tell_truth_moved : ∃ s,
    Run rentals.step (System.admits unitsAsRead) ⟨threeUnits .draft .available, []⟩ s ∧
    s.db.statusOf 0 = some .ended ∧
    ∀ u unit, s.db.units.find u = some unit →
      (unit.status = .occupied ↔ ∃! k, ∃ c, s.db.contracts.find k = some c ∧ c.rents u = true) ∧
      (unit.status = .reserved → s.db.heldBut none u = true) := by
  obtain ⟨s, run, hs⟩ := Run.exists_of_exec rentals.step (System.admits unitsAsRead)
    ⟨threeUnits .draft .available, []⟩
    [.start (.onContract 0 .sign), .advance 0 ⟨0, 0⟩, .start (moveTo 1 (some 10)),
      .advance 0 ⟨0, 0⟩, .start (.applyScheduledMove 0 10), .advance 0 ⟨10, 10⟩,
      .advance 0 ⟨10, 10⟩, .start (.onContract 0 .endContract), .advance 0 ⟨20, 20⟩]
    (fun s => s.db.statusOf 0 = some .ended) (by decide +kernel)
  exact ⟨s, run, by simpa using hs, (units_tell_truth rfl
    (show Occupancy (threeUnits .draft .available) by decide +kernel)
    (threeUnits_entriesOpen _ _) run).1⟩

/-- A move is scheduled to the third unit and the contract is then moved to the second: the third
stays reserved with nobody holding it. -/
theorem move_forgotten : ∃ start s, start.running = [] ∧ Occupancy start.db ∧
    EntriesOpen start.db ∧ Reaches rentals.step start s ∧
    s.db.unitStatus 2 = some .reserved ∧ s.db.heldBut none 2 = false := by
  obtain ⟨s, run, hs⟩ := Run.exists_of_exec rentals.step (fun _ _ => True)
    ⟨threeUnits .active .occupied, []⟩
    [.start (moveTo 2 (some 10)), .advance 0 ⟨0, 0⟩, .start (moveTo 1 none), .advance 0 ⟨0, 0⟩]
    (fun s => s.db.unitStatus 2 = some .reserved && !s.db.heldBut none 2) (by decide +kernel)
  simp only [Bool.and_eq_true, decide_eq_true_eq, Bool.not_eq_true'] at hs
  exact ⟨⟨threeUnits .active .occupied, []⟩, s, rfl,
    (show Occupancy (threeUnits .active .occupied) by decide +kernel),
    threeUnits_entriesOpen _ _, run, hs.1, hs.2⟩

end StorageOS
