import StorageOS.Contracts.OnlineBookings
import StorageOS.Lib.Custody

/-! The units of online bookings: in turn, a booking reserves a unit that is still available, or takes one that is
still held for its entry, and lets go only of its own. -/

namespace StorageOS

open Transition Processes

variable {start db db' : BookingDb} {call call' : BookingCall} {rest : Option BookingCall} {input : BookingInput}
  {running : List BookingCall} {i : ℕ} {s : State BookingDb BookingCall} {u : UnitId}

/-- The unit that a booking has reserved, until its contract holds it. -/
def BookingCall.reserved : BookingCall → Option UnitId
  | .readingOffers _ unitId _ => some unitId
  | .creating unitId _ none _ => some unitId
  | .releasing unitId _ => some unitId
  | _ => none

/-- The customer that a booking has created, until its contract is of that customer. -/
def BookingCall.newCustomer : BookingCall → Option CustomerId
  | .creating _ customerId _ true => some customerId
  | .releasing _ created => created
  | .deleting customerId => some customerId
  | _ => none

def bookingInTurn (db : BookingDb) (call : BookingCall) (input : BookingInput) : Bool :=
  if input.stops then call.reserved.isNone && call.newCustomer.isNone
  else match call with
  | .reserving _ none unitId => (db.units.find unitId).any (·.status = .available)
  | .reservingUnit _ unitId _ => (db.units.find unitId).any (·.status = .available)
  | .creating _ customerId (some id) _ =>
    !db.creates customerId input || (db.entries.find id).any (·.status = .notified)
  | .releasing .. => !input.fails
  | .deleting _ => !input.fails
  | _ => true

/-- Before any booking: an entry that has been notified holds a reserved unit of its own. -/
structure BeforeBookings (db : BookingDb) : Prop where
  contracts : db.contracts = .empty
  locks : db.locks = []
  held : ∀ id entry u, db.entries.find id = some entry → entry.status = .notified → entry.heldUnitId = some u →
    ∀ unit, db.units.find u = some unit → unit.status = .reserved
  apart : ∀ id id' entry entry' u, db.entries.find id = some entry → db.entries.find id' = some entry' →
    entry.status = .notified → entry'.status = .notified → entry.heldUnitId = some u → entry'.heldUnitId = some u →
    id = id'

/-! ### The units -/

def unitCustody : Custody BookingDb BookingCall UnitId where
  made db u := (db.contracts.values.map BookingContract.unitId).count u
  holds call u := if call.reserved = some u then 1 else 0
  closed db u := ∀ unit, db.units.find u = some unit → unit.status ≠ .available

def BookingCall.Known (start : BookingDb) : BookingCall → Prop
  | .choosing _ (some hold) => ∃ entry, start.entries.find hold.id = some entry ∧ entry.status = .notified ∧
    entry.heldUnitId = some hold.heldUnitId
  | .reserving _ (some hold) unitId => unitId = hold.heldUnitId ∧ ∃ entry, start.entries.find hold.id = some entry ∧
    entry.status = .notified ∧ entry.heldUnitId = some hold.heldUnitId
  | .creating unitId _ (some id) _ => ∃ entry, start.entries.find id = some entry ∧ entry.status = .notified ∧
    entry.heldUnitId = some unitId
  | _ => True

/-- What a step does to the units and who holds them. -/
inductive UnitStep (db : BookingDb) (call : BookingCall) (db' : BookingDb) (rest : Option BookingCall) : Prop
  | same (units : db'.units = db.units) (entries : db'.entries = db.entries)
      (count : ∀ u, unitCustody.after db' rest u = unitCustody.made db u + unitCustody.holds call u)
  | reserves (u : UnitId) (available : ∃ unit, db.units.find u = some unit ∧ unit.status = .available)
      (units : db'.units = db.units.modify u fun unit => { unit with status := .reserved })
      (entries : db'.entries = db.entries)
      (count : ∀ v, unitCustody.after db' rest v =
        unitCustody.made db v + unitCustody.holds call v + if v = u then 1 else 0)
  | releases (u : UnitId) (own : call.reserved = some u)
      (units : db'.units = db.units.modify u fun unit =>
        if unit.status = .reserved then { unit with status := .available } else unit)
      (entries : db'.entries = db.entries)
      (count : ∀ v, unitCustody.after db' rest v = unitCustody.made db v)
  | takes (id : WaitlistEntryId) (u : UnitId)
      (notified : ∃ entry, db.entries.find id = some entry ∧ entry.status = .notified ∧ entry.heldUnitId = some u)
      (units : db'.units = db.units)
      (entries : db'.entries = db.entries.modify id fun entry =>
        if entry.status = .waiting ∨ entry.status = .notified then
          { entry with status := .converted, convertedContractId := some db.contracts.nextKey }
        else entry)
      (count : ∀ v, unitCustody.after db' rest v =
        unitCustody.made db v + unitCustody.holds call v + if v = u then 1 else 0)

/-- Units are as at the start but for those that bookings hold, which are reserved. -/
structure UnitsSound (start : BookingDb) (s : State BookingDb BookingCall) : Prop where
  once : unitCustody.Once s
  units : ∀ u, s.db.units.find u = (start.units.find u).map fun unit =>
    if unitCustody.total s u = 0 then unit else { unit with status := .reserved }
  owned : ∀ call ∈ s.running, ∀ u, call.reserved = some u →
    ∀ unit, start.units.find u = some unit → unit.status = .available
  entries : ∀ id entry, s.db.entries.find id = some entry → entry.status = .notified →
    start.entries.find id = some entry
  free : ∀ id entry u, s.db.entries.find id = some entry → entry.status = .notified → entry.heldUnitId = some u →
    unitCustody.total s u = 0
  known : ∀ call ∈ s.running, call.Known start

theorem UnitsSound.startAvailable (sound : UnitsSound start s)
    (available : ∃ unit, s.db.units.find u = some unit ∧ unit.status = .available) :
    unitCustody.total s u = 0 ∧ ∃ unit, start.units.find u = some unit ∧ unit.status = .available := by
  obtain ⟨unit, found, status⟩ := available
  rw [sound.units] at found
  obtain ⟨unit0, there, same⟩ := Option.map_eq_some_iff.mp found
  split at same
  · rename_i none_
    exact ⟨none_, unit0, there, same ▸ status⟩
  · rw [← same] at status
    cases status

theorem UnitsSound.step (before : BeforeBookings start) (sound : UnitsSound start ⟨db, running⟩)
    (found : running[i]? = some call) (effect : UnitStep db call db' rest)
    (owned : ∀ call', rest = some call' → ∀ u, call'.reserved = some u →
      call.reserved = some u ∨ ∃ unit, db.units.find u = some unit ∧ unit.status = .available)
    (known : ∀ call', rest = some call' → call'.Known start) :
    UnitsSound start ⟨db', resume running i rest⟩ := by
  have counted : ∀ v, unitCustody.total ⟨db', resume running i rest⟩ v +
      (unitCustody.made db v + unitCustody.holds call v) =
        unitCustody.total ⟨db, running⟩ v + unitCustody.after db' rest v :=
    fun v => unitCustody.total_resume found v
  have most : ∀ v, unitCustody.total ⟨db, running⟩ v ≤ 1 := fun v => (sound.once v).1
  have ownedAll : ∀ call ∈ resume running i rest, ∀ u, call.reserved = some u →
      ∀ unit, start.units.find u = some unit → unit.status = .available := by
    intro other mem v own unit there
    rcases mem_resume mem with old | new
    · exact sound.owned other old v own unit there
    · rcases owned other new v own with before' | available
      · exact sound.owned call (List.mem_of_getElem? found) v before' unit there
      · obtain ⟨-, unit', there', status⟩ := sound.startAvailable available
        rw [there] at there'
        cases there'
        exact status
  have knownAll : ∀ call ∈ resume running i rest, call.Known start := fun other mem =>
    (mem_resume mem).elim (sound.known other) (known other)
  cases effect with
  | same units entries count =>
    have total : ∀ v, unitCustody.total ⟨db', resume running i rest⟩ v = unitCustody.total ⟨db, running⟩ v := by
      intro v
      have now := counted v
      rw [count] at now
      omega
    refine ⟨fun v => ?_, fun v => ?_, ownedAll, fun id entry there => ?_, fun id entry v there => ?_, knownAll⟩
    · rw [total]
      refine ⟨most v, fun some_ unit there => (sound.once v).2 some_ unit ?_⟩
      rw [← units]
      exact there
    · dsimp only
      rw [total, units]
      exact sound.units v
    · exact sound.entries id entry (entries ▸ there)
    · rw [total]
      exact sound.free id entry v (entries ▸ there)
  | reserves v available units entries count =>
    obtain ⟨none_, unit0, there0, status0⟩ := sound.startAvailable available
    have total : ∀ w, unitCustody.total ⟨db', resume running i rest⟩ w =
        unitCustody.total ⟨db, running⟩ w + if w = v then 1 else 0 := by
      intro w
      have now := counted w
      rw [count] at now
      omega
    refine ⟨fun w => ?_, fun w => ?_, ownedAll, fun id entry there => ?_, fun id entry w there notified held => ?_,
      knownAll⟩
    · rw [total]
      by_cases own : w = v
      · subst own
        rw [if_pos rfl, none_]
        refine ⟨le_refl _, fun _ unit there => ?_⟩
        rw [units, Table.find_modify_self] at there
        obtain ⟨_, -, rfl⟩ := Option.map_eq_some_iff.mp there
        exact nofun
      · rw [if_neg own, Nat.add_zero]
        refine ⟨most w, fun some_ unit there => (sound.once w).2 some_ unit ?_⟩
        rw [← there, units, Table.find_modify_ne _ own]
    · dsimp only
      rw [total, units]
      by_cases own : w = v
      · subst own
        rw [Table.find_modify_self, if_pos rfl, none_, sound.units, none_, there0]
        rfl
      · rw [Table.find_modify_ne _ own, if_neg own, Nat.add_zero]
        exact sound.units w
    · exact sound.entries id entry (entries ▸ there)
    · have start0 := sound.entries id entry (entries ▸ there) notified
      have empty := sound.free id entry w (entries ▸ there) notified held
      rw [total, empty, if_neg]
      rintro rfl
      have reserved := before.held id entry w start0 notified held unit0 there0
      rw [status0] at reserved
      cases reserved
  | releases v own units entries count =>
    have holds : ∀ w, unitCustody.holds call w = if w = v then 1 else 0 := by
      intro w
      change (if call.reserved = some w then 1 else 0) = _
      rw [own]
      by_cases same : w = v
      · rw [if_pos same, if_pos (congrArg some same.symm)]
      · rw [if_neg same, if_neg fun eq => same (Option.some.inj eq).symm]
    have total : ∀ w, unitCustody.total ⟨db', resume running i rest⟩ w + (if w = v then 1 else 0) =
        unitCustody.total ⟨db, running⟩ w := by
      intro w
      have now := counted w
      rw [count, holds] at now
      omega
    have one : unitCustody.total ⟨db, running⟩ v = 1 := by
      have now := total v
      have limit := most v
      rw [if_pos rfl] at now
      omega
    refine ⟨fun w => ?_, fun w => ?_, ownedAll, fun id entry there => ?_, fun id entry w there notified held => ?_,
      knownAll⟩
    · have now := total w
      by_cases same : w = v
      · subst same
        rw [if_pos rfl, one] at now
        exact ⟨by omega, fun some_ => (some_ (by omega)).elim⟩
      · rw [if_neg same, Nat.add_zero] at now
        rw [now]
        refine ⟨most w, fun some_ unit there => (sound.once w).2 some_ unit ?_⟩
        rw [← there, units, Table.find_modify_ne _ same]
    · dsimp only
      have now := total w
      by_cases same : w = v
      · subst same
        rw [if_pos rfl, one] at now
        have zero : unitCustody.total ⟨db', resume running i rest⟩ w = 0 := by omega
        have unit := sound.units w
        rw [units, Table.find_modify_self, unit, one, zero]
        cases there : start.units.find w with
        | none => rfl
        | some unit0 =>
          have status := sound.owned call (List.mem_of_getElem? found) w own unit0 there
          simp only [Option.map_some, if_true, ← status]
          rfl
      · rw [if_neg same, Nat.add_zero] at now
        rw [now, units, Table.find_modify_ne _ same]
        exact sound.units w
    · exact sound.entries id entry (entries ▸ there)
    · have empty := sound.free id entry w (entries ▸ there) notified held
      have now := total w
      omega
  | takes id v notified units entries count =>
    obtain ⟨entry0, there0, status0, held0⟩ := notified
    have start0 := sound.entries id entry0 there0 status0
    have none_ := sound.free id entry0 v there0 status0 held0
    have total : ∀ w, unitCustody.total ⟨db', resume running i rest⟩ w =
        unitCustody.total ⟨db, running⟩ w + if w = v then 1 else 0 := by
      intro w
      have now := counted w
      rw [count] at now
      omega
    have reserved : ∀ unit, start.units.find v = some unit → unit.status = .reserved :=
      before.held id entry0 v start0 status0 held0
    have kept : ∀ {id' entry}, db'.entries.find id' = some entry → entry.status = .notified →
        id' ≠ id ∧ db.entries.find id' = some entry := by
      intro id' entry there status
      rw [entries] at there
      rcases Table.find_modify_cases there with unchanged | ⟨rfl, entry', was, rfl⟩
      · exact unchanged
      · rw [there0] at was
        cases was
        rw [if_pos (.inr status0)] at status
        cases status
    refine ⟨fun w => ?_, fun w => ?_, ownedAll, fun id' entry there status => ?_,
      fun id' entry w there status held => ?_, knownAll⟩
    · rw [total]
      by_cases same : w = v
      · subst same
        rw [if_pos rfl, none_]
        refine ⟨le_refl _, fun _ unit there => ?_⟩
        dsimp only at there
        rw [units, sound.units, none_] at there
        simp only [if_true, Option.map_id'] at there
        rw [reserved unit there]
        decide
      · rw [if_neg same, Nat.add_zero]
        refine ⟨most w, fun some_ unit there => (sound.once w).2 some_ unit ?_⟩
        rw [← units]
        exact there
    · dsimp only
      rw [total, units, sound.units]
      by_cases same : w = v
      · subst same
        rw [if_pos rfl, none_]
        cases there : start.units.find w with
        | none => rfl
        | some unit =>
          have status := reserved unit there
          simp only [Option.map_some, if_true, ← status]
          rfl
      · rw [if_neg same, Nat.add_zero]
    · exact sound.entries id' entry (kept there status).2 status
    · obtain ⟨other, was⟩ := kept there status
      have empty := sound.free id' entry w was status held
      rw [total, empty, if_neg]
      rintro rfl
      exact other (before.apart id' id entry entry0 w (sound.entries id' entry was status) start0 status status0 held
        held0)

/-! ### The steps -/

theorem made_push (c : BookingContract) (v : UnitId) :
    ((db.contracts.push c).values.map BookingContract.unitId).count v =
      unitCustody.made db v + if v = c.unitId then 1 else 0 := by
  change ((List.map Prod.snd (db.contracts.rows ++ [_])).map BookingContract.unitId).count v = _
  rw [List.map_append, List.map_append, List.count_append]
  refine congrArg _ ?_
  change List.count v [c.unitId] = _
  rw [List.count_singleton]
  by_cases same : v = c.unitId
  · rw [if_pos same, same]
    simp
  · rw [if_neg same]
    simp [Ne.symm same]

theorem made_modify {id : ContractId} {f : BookingContract → BookingContract}
    (same : ∀ c, (f c).unitId = c.unitId) :
    (db.contracts.modify id f).values.map BookingContract.unitId = db.contracts.values.map BookingContract.unitId := by
  have view := Table.view_modify_same (t := db.contracts) (k := id) (g := BookingContract.unitId) fun c _ => same c
  have values := congrArg Table.values view
  simp only [Table.values, Table.view, List.map_map] at values
  simp only [Table.values, List.map_map]
  exact values

theorem after_reserved (v : UnitId) : unitCustody.after db' rest v =
    unitCustody.made db' v + if rest.bind BookingCall.reserved = some v then 1 else 0 := by
  cases rest with
  | none => rfl
  | some call' => rfl

theorem UnitStep.idle (units : db'.units = db.units) (entries : db'.entries = db.entries)
    (contracts : db'.contracts.values.map BookingContract.unitId = db.contracts.values.map BookingContract.unitId)
    (reserved : rest.bind BookingCall.reserved = call.reserved) : UnitStep db call db' rest := by
  refine .same units entries fun v => ?_
  rw [after_reserved, reserved]
  change List.count v _ + _ = List.count v _ + _
  rw [contracts]
  rfl

theorem UnitStep.reserved (u : UnitId) (available : ∃ unit, db.units.find u = some unit ∧ unit.status = .available)
    (units : db'.units = db.units.modify u fun unit => { unit with status := .reserved })
    (entries : db'.entries = db.entries) (contracts : db'.contracts = db.contracts) (idle : call.reserved = none)
    (reserves : rest.bind BookingCall.reserved = some u) : UnitStep db call db' rest := by
  refine .reserves u available units entries fun v => ?_
  rw [after_reserved, reserves]
  change List.count v _ + _ = List.count v _ + (if call.reserved = some v then 1 else 0) + _
  rw [contracts, idle, if_neg (Option.some_ne_none v).symm, Nat.add_zero]
  by_cases same : v = u
  · rw [if_pos same, if_pos (congrArg some same.symm)]
  · rw [if_neg same, if_neg fun eq => same (Option.some.inj eq).symm]

variable {booking : CreateBookingInput} {hold : BookingHold}

theorem chooseUnit_held {now : Instant} (chosen : db.chooseUnit booking (some hold) now = some u) :
    u = hold.heldUnitId := by
  obtain ⟨q, least, rfl⟩ := Option.map_eq_some_iff.mp chosen
  have mem := List.argmin_mem least
  have checks := (List.mem_filter.mp mem).2
  simp only [Bool.and_eq_true, decide_eq_true_eq] at checks
  exact checks.2.1

theorem customerOf_cases (db : BookingDb) (email : String) :
    (∃ id c, db.customers.find id = some c ∧ db.customerOf email = (db, id, false)) ∨
      db.customerOf email =
        ({ db with customers := db.customers.push ⟨email, false⟩ }, db.customers.nextKey, true) := by
  unfold BookingDb.customerOf
  split
  · rename_i q found
    exact .inl ⟨q.1, q.2, Table.find_of_mem (List.mem_of_find?_eq_some found), rfl⟩
  · exact .inr rfl

theorem findHold_notified (found : db.findHold booking = some hold) : ∃ entry, db.entries.find hold.id = some entry ∧
      entry.status = .notified ∧ entry.heldUnitId = some hold.heldUnitId := by
  simp only [BookingDb.findHold, Option.bind_eq_some_iff] at found
  obtain ⟨id, -, entry, there, rest⟩ := found
  split at rest
  · rename_i checks
    obtain ⟨u, held, rfl⟩ := Option.map_eq_some_iff.mp rest
    exact ⟨entry, there, checks.1, held⟩
  · cases rest

theorem stepBooking_stops (stops : input.stops = true) (made : stepBooking db call input = some (db', rest)) :
    db'.units = db.units ∧ db'.entries = db.entries ∧ db'.contracts = db.contracts ∧
      db'.customers = db.customers ∧ rest = none := by
  rw [stepBooking, if_pos stops] at made
  cases made
  cases call.lock <;> exact ⟨rfl, rfl, rfl, rfl, rfl⟩

theorem stepBooking_runs (goes : input.stops = false) (made : stepBooking db call input = some (db', rest)) :
    runBooking db input call = some (db', rest) := by
  rw [stepBooking, if_neg (by rw [goes]; exact Bool.false_ne_true)] at made
  exact made

/-- What a step in turn does with the units, what it hands on and what it knows of its hold. -/
structure StepsInTurn (start db : BookingDb) (call : BookingCall) (db' : BookingDb) (rest : Option BookingCall) :
    Prop where
  effect : UnitStep db call db' rest
  owned : ∀ call', rest = some call' → ∀ u, call'.reserved = some u →
    call.reserved = some u ∨ ∃ unit, db.units.find u = some unit ∧ unit.status = .available
  known : ∀ call', rest = some call' → call'.Known start

theorem StepsInTurn.quiet (effect : UnitStep db call db' rest)
    (reserved : rest.bind BookingCall.reserved = call.reserved)
    (known : ∀ call', rest = some call' → call'.Known start) : StepsInTurn start db call db' rest := by
  refine ⟨effect, fun call' next u own => .inl ?_, known⟩
  rw [← reserved, next]
  exact own

theorem any_available (available : (db.units.find u).any (·.status = .available) = true) :
    ∃ unit, db.units.find u = some unit ∧ unit.status = .available := by
  obtain ⟨unit, there, status⟩ := (Option.any_eq_true _ _).mp available
  exact ⟨unit, there, of_decide_eq_true status⟩

theorem any_notified {id : WaitlistEntryId} (notified : (db.entries.find id).any (·.status = .notified) = true) :
    ∃ entry, db.entries.find id = some entry ∧ entry.status = .notified := by
  obtain ⟨entry, there, status⟩ := (Option.any_eq_true _ _).mp notified
  exact ⟨entry, there, of_decide_eq_true status⟩

theorem StepsInTurn.reserves (u : UnitId)
    (available : (db.units.find u).any (·.status = .available) = true)
    (units : db'.units = db.units.modify u fun unit => { unit with status := .reserved })
    (entries : db'.entries = db.entries) (contracts : db'.contracts = db.contracts) (idle : call.reserved = none)
    {call' : BookingCall} (next : rest = some call') (reserves : call'.reserved = some u) (known : call'.Known start) :
    StepsInTurn start db call db' rest := by
  have there := any_available available
  subst next
  refine ⟨.reserved u there units entries contracts idle reserves, ?_, ?_⟩
  · rintro _ ⟨⟩ v own
    rw [reserves] at own
    cases own
    exact .inr there
  · rintro _ ⟨⟩
    exact known

theorem reserving_inTurn {hold : Option BookingHold} (known : (BookingCall.reserving booking hold u).Known start)
    (available : hold = none → (db.units.find u).any (·.status = .available) = true)
    (ran : runBooking db input (.reserving booking hold u) = some (db', rest)) :
    StepsInTurn start db (.reserving booking hold u) db' rest := by
  rw [runBooking] at ran
  cases hold with
  | none =>
    simp only [Option.isNone_none, if_true, Option.map_none] at ran
    rcases customerOf_cases (db.setUnitStatus u .reserved) booking.email with ⟨id, _, -, of⟩ | of
    all_goals
      rw [of] at ran
      cases ran
      exact .reserves u (available rfl) rfl rfl rfl rfl rfl rfl trivial
  | some hold =>
    obtain ⟨rfl, notified⟩ := known
    simp only [Option.isNone_some, Bool.false_eq_true, if_false, Option.map_some] at ran
    rcases customerOf_cases db booking.email with ⟨id, _, -, of⟩ | of
    all_goals
      rw [of] at ran
      cases ran
      refine .quiet (.idle rfl rfl rfl rfl) rfl ?_
      rintro _ ⟨⟩
      exact notified

theorem creating_inTurn {customerId : CustomerId} {hold : Option WaitlistEntryId} {customerCreated : Bool}
    (sound : UnitsSound start ⟨db, running⟩)
    (known : (BookingCall.creating u customerId hold customerCreated).Known start)
    (inTurn : ∀ id, hold = some id → db.creates customerId input = true →
      (db.entries.find id).any (·.status = .notified) = true)
    (ran : runBooking db input (.creating u customerId hold customerCreated) = some (db', rest)) :
    StepsInTurn start db (.creating u customerId hold customerCreated) db' rest := by
  rw [runBooking] at ran
  split at ran
  · rename_i creates
    cases ran
    have handed : ∀ v, unitCustody.after (db.create u customerId hold) (some (.dating db.contracts.nextKey)) v =
        unitCustody.made db v + if v = u then 1 else 0 := by
      intro v
      have dates : (some (BookingCall.dating db.contracts.nextKey)).bind BookingCall.reserved = none := rfl
      rw [after_reserved, dates, if_neg (Option.some_ne_none v).symm, Nat.add_zero]
      exact made_push _ v
    cases hold with
    | none =>
      refine ⟨.same rfl rfl fun v => ?_, ?_, ?_⟩
      · rw [handed]
        change _ = _ + if some u = some v then 1 else 0
        by_cases same : v = u
        · rw [if_pos same, if_pos (congrArg some same.symm)]
        · rw [if_neg same, if_neg fun eq => same (Option.some.inj eq).symm]
      · rintro _ ⟨⟩ _ ⟨⟩
      · rintro _ ⟨⟩
        trivial
    | some id =>
      obtain ⟨entry0, start0, -, held0⟩ := known
      obtain ⟨entry, there, status⟩ := any_notified (inTurn id rfl creates)
      have was := sound.entries id entry there status
      rw [start0] at was
      cases was
      refine ⟨.takes id u ⟨entry0, there, status, held0⟩ rfl rfl fun v => ?_, ?_, ?_⟩
      · rw [handed]
        rfl
      · rintro _ ⟨⟩ _ ⟨⟩
      · rintro _ ⟨⟩
        trivial
  · cases ran
    cases hold with
    | none =>
      refine .quiet (.idle rfl rfl rfl rfl) rfl ?_
      rintro _ ⟨⟩
      trivial
    | some id =>
      cases customerCreated with
      | false => exact .quiet (.idle rfl rfl rfl rfl) rfl goesOn_none
      | true =>
        refine .quiet (.idle rfl rfl rfl rfl) rfl ?_
        rintro _ ⟨⟩
        trivial

theorem releasing_inTurn {created : Option CustomerId} (goes : input.fails = false)
    (ran : runBooking db input (.releasing u created) = some (db', rest)) :
    StepsInTurn start db (.releasing u created) db' rest := by
  rw [runBooking, if_neg (by rw [goes]; exact Bool.false_ne_true)] at ran
  cases ran
  have quiet : (created.map BookingCall.deleting).bind BookingCall.reserved = none := by
    cases created <;> rfl
  refine ⟨.releases u rfl rfl rfl fun v => ?_, fun call' next v own => ?_, fun call' next => ?_⟩
  · rw [after_reserved, quiet, if_neg (Option.some_ne_none v).symm]
    rfl
  · obtain ⟨_, -, rfl⟩ := Option.map_eq_some_iff.mp next
    cases own
  · obtain ⟨_, -, rfl⟩ := Option.map_eq_some_iff.mp next
    trivial

theorem stepBooking_inTurn (sound : UnitsSound start ⟨db, running⟩) (found : running[i]? = some call)
    (inTurn : bookingInTurn db call input = true) (made : stepBooking db call input = some (db', rest)) :
    StepsInTurn start db call db' rest := by
  have known := sound.known call (List.mem_of_getElem? found)
  cases stops : input.stops with
  | true =>
    simp only [bookingInTurn, stops, if_true, Bool.and_eq_true, Option.isNone_iff_eq_none] at inTurn
    obtain ⟨units, entries, contracts, -, rfl⟩ := stepBooking_stops stops made
    exact .quiet (.idle units entries (by rw [contracts]) inTurn.1.symm) inTurn.1.symm goesOn_none
  | false =>
    have ran := stepBooking_runs stops made
    simp only [bookingInTurn, stops, Bool.false_eq_true, if_false] at inTurn
    cases call with
    | findingHold booking =>
      cases ran
      refine .quiet (.idle rfl rfl rfl rfl) rfl ?_
      rintro _ ⟨⟩
      cases hold : db.findHold booking with
      | none => trivial
      | some hold =>
        obtain ⟨entry, there, status, held⟩ := findHold_notified hold
        exact ⟨entry, sound.entries _ entry there status, status, held⟩
    | choosing booking hold =>
      rw [runBooking] at ran
      split at ran
      · cases ran
      split at ran
      · rename_i unitId chosen
        cases ran
        refine .quiet (.idle rfl rfl rfl rfl) rfl ?_
        rintro _ ⟨⟩
        cases hold with
        | none => trivial
        | some hold => exact ⟨chooseUnit_held chosen, known⟩
      · cases ran
        exact .quiet (.idle rfl rfl rfl rfl) rfl goesOn_none
    | reserving booking hold unitId =>
      refine reserving_inTurn known (fun none_ => ?_) ran
      subst none_
      exact inTurn
    | findingCustomer customerId unitId couponCode =>
      rw [runBooking] at ran
      split at ran
      · cases ran
        refine .quiet (.idle rfl rfl rfl rfl) rfl ?_
        rintro _ ⟨⟩
        trivial
      · cases ran
        exact .quiet (.idle rfl rfl rfl rfl) rfl goesOn_none
    | checking customerId unitId couponCode =>
      rw [runBooking] at ran
      split at ran
      · cases ran
      split at ran
      · cases ran
        refine .quiet (.idle rfl rfl rfl rfl) rfl ?_
        rintro _ ⟨⟩
        trivial
      · cases ran
        exact .quiet (.idle rfl rfl rfl rfl) rfl goesOn_none
    | reservingUnit customerId unitId couponCode =>
      cases ran
      exact .reserves unitId inTurn rfl rfl rfl rfl rfl rfl trivial
    | readingOffers customerId unitId couponCode =>
      rw [runBooking] at ran
      split at ran
      all_goals
        cases ran
        refine .quiet (.idle rfl rfl rfl rfl) rfl ?_
        rintro _ ⟨⟩
        trivial
    | creating unitId customerId hold customerCreated =>
      refine creating_inTurn sound known (fun id held creates => ?_) ran
      subst held
      simpa [creates] using inTurn
    | dating id =>
      cases ran
      exact .quiet (.idle rfl rfl (made_modify fun _ => rfl) rfl) rfl goesOn_none
    | releasing unitId created => exact releasing_inTurn (by simpa using inTurn) ran
    | deleting customerId =>
      rw [runBooking] at ran
      cases ran
      refine .quiet (.idle ?_ ?_ ?_ rfl) rfl goesOn_none
      all_goals split <;> rfl

theorem BeforeBookings.unitsSound (before : BeforeBookings start) : UnitsSound start ⟨start, []⟩ := by
  have total : ∀ v, unitCustody.total ⟨start, []⟩ v = 0 := by
    intro v
    change (start.contracts.values.map BookingContract.unitId).count v + 0 = 0
    rw [before.contracts]
    rfl
  refine ⟨fun v => ⟨by rw [total]; omega, fun some_ => (some_ (total v)).elim⟩, fun v => ?_,
    fun _ mem => (List.not_mem_nil mem).elim, fun _ _ found _ => found, fun _ _ v _ _ _ => total v,
    fun _ mem => (List.not_mem_nil mem).elim⟩
  dsimp only
  rw [total]
  simp

theorem UnitsSound.enters (sound : UnitsSound start ⟨db, running⟩) {request : BookingRequest}
    (entered : enterBooking db request = some call) : UnitsSound start ⟨db, running ++ [call]⟩ := by
  have idle : call.reserved = none ∧ call.Known start := by
    cases request <;> cases entered <;> exact ⟨rfl, trivial⟩
  have empty : ∀ v, unitCustody.holds call v = 0 := by
    intro v
    change (if call.reserved = some v then 1 else 0) = 0
    rw [idle.1, if_neg (Option.some_ne_none v).symm]
  have total : ∀ v, unitCustody.total ⟨db, running ++ [call]⟩ v = unitCustody.total ⟨db, running⟩ v := by
    intro v
    simp [Custody.total, empty v]
  have joins : ∀ {other}, other ∈ running ++ [call] → other ∈ running ∨ other = call := fun mem =>
    (List.mem_append.mp mem).imp_right List.mem_singleton.mp
  refine ⟨Custody.once_start sound.once empty, fun v => ?_, fun other mem v own => ?_, sound.entries,
    fun id entry v there notified held => ?_, fun other mem => ?_⟩
  · dsimp only
    rw [total]
    exact sound.units v
  · rcases joins mem with old | rfl
    · exact sound.owned other old v own
    · rw [idle.1] at own
      cases own
  · rw [total]
    exact sound.free id entry v there notified held
  · rcases joins mem with old | rfl
    · exact sound.known other old
    · exact idle.2

end StorageOS
