import StorageOS.Contracts.BookingUnits

/-! Online bookings hold their units alone and leave nothing behind when they fail, in the runs where nothing cuts a
booking off between its two transactions. -/

namespace StorageOS

open Transition Processes

variable {start db db' : BookingDb} {call call' : BookingCall} {rest : Option BookingCall} {input : BookingInput}
  {running : List BookingCall} {i : ℕ} {s : State BookingDb BookingCall} {u : UnitId}

/-! ### The customers and the entries -/

def DraftsStay (db db' : BookingDb) : Prop :=
  ∀ k c, db.contracts.find k = some c → ∃ c', db'.contracts.find k = some c' ∧ c'.unitId = c.unitId ∧
    c'.customerId = c.customerId ∧ c'.waitlistEntryId = c.waitlistEntryId

def BookingDb.hasDraftOf (db : BookingDb) (customerId : CustomerId) : Prop :=
  ∃ k c, db.contracts.find k = some c ∧ c.customerId = customerId

theorem DraftsStay.of_eq (contracts : db'.contracts = db.contracts) : DraftsStay db db' := fun _ c there =>
  ⟨c, contracts ▸ there, rfl, rfl, rfl⟩

theorem DraftsStay.hasDraftOf (stay : DraftsStay db db') {id : CustomerId} (has : db.hasDraftOf id) :
    db'.hasDraftOf id := by
  obtain ⟨k, c, there, own⟩ := has
  obtain ⟨c', there', -, customer, -⟩ := stay k c there
  exact ⟨k, c', there', customer.trans own⟩

/-- What a step does with the customers and the entries. -/
inductive LeavingStep (db : BookingDb) (call : BookingCall) (db' : BookingDb) (rest : Option BookingCall) : Prop
  | idle (customers : db'.customers = db.customers) (entries : db'.entries = db.entries) (stay : DraftsStay db db')
      (handed : rest.bind BookingCall.newCustomer = call.newCustomer)
  | adds (email : String) (idle : call.newCustomer = none)
      (customers : db'.customers = db.customers.push ⟨email, false⟩)
      (entries : db'.entries = db.entries) (stay : DraftsStay db db')
      (handed : rest.bind BookingCall.newCustomer = some db.customers.nextKey)
  | drafts (unitId : UnitId) (customerId : CustomerId) (hold : Option WaitlistEntryId) (customerCreated : Bool)
      (own : call = .creating unitId customerId hold customerCreated)
      (notified : ∀ id, hold = some id → ∃ entry, db.entries.find id = some entry ∧ entry.status = .notified)
      (after : db' = db.create unitId customerId hold)
      (handed : rest.bind BookingCall.newCustomer = none)
  | deletes (id : CustomerId) (own : call.newCustomer = some id)
      (customers : db'.customers = db.customers.modify id fun c => { c with removed := true })
      (entries : db'.entries = db.entries) (stay : DraftsStay db db')
      (handed : rest.bind BookingCall.newCustomer = none)
  | stays (id : CustomerId) (own : call.newCustomer = some id) (has : db.hasDraftOf id)
      (customers : db'.customers = db.customers) (entries : db'.entries = db.entries) (stay : DraftsStay db db')
      (handed : rest.bind BookingCall.newCustomer = none)

theorem stepBooking_leaves (inTurn : bookingInTurn db call input = true)
    (made : stepBooking db call input = some (db', rest)) : LeavingStep db call db' rest := by
  cases stops : input.stops with
  | true =>
    simp only [bookingInTurn, stops, if_true, Bool.and_eq_true, Option.isNone_iff_eq_none] at inTurn
    obtain ⟨-, entries, contracts, customers, rfl⟩ := stepBooking_stops stops made
    exact .idle customers entries (.of_eq contracts) inTurn.2.symm
  | false =>
    have ran := stepBooking_runs stops made
    simp only [bookingInTurn, stops, Bool.false_eq_true, if_false] at inTurn
    cases call with
    | findingHold booking =>
      cases ran
      exact .idle rfl rfl (.of_eq rfl) rfl
    | choosing booking hold =>
      rw [runBooking] at ran
      split at ran
      · cases ran
      split at ran
      all_goals
        cases ran
        exact .idle rfl rfl (.of_eq rfl) rfl
    | reserving booking hold unitId =>
      rw [runBooking] at ran
      set reserved := if hold.isNone then db.setUnitStatus unitId .reserved else db with reservedEq
      have same : reserved.customers = db.customers ∧ reserved.entries = db.entries ∧
          reserved.contracts = db.contracts := by
        rw [reservedEq]
        cases hold <;> exact ⟨rfl, rfl, rfl⟩
      obtain ⟨customers, entries, contracts⟩ := same
      rcases customerOf_cases reserved booking.email with ⟨id, _, -, of⟩ | of
      · simp only [of] at ran
        cases ran
        exact .idle customers entries (.of_eq contracts) rfl
      · simp only [of] at ran
        cases ran
        refine .adds booking.email rfl ?_ entries (.of_eq contracts) ?_
        · rw [← customers]
          rfl
        · rw [← customers]
          rfl
    | findingCustomer customerId unitId couponCode =>
      rw [runBooking] at ran
      split at ran
      all_goals
        cases ran
        exact .idle rfl rfl (.of_eq rfl) rfl
    | checking customerId unitId couponCode =>
      rw [runBooking] at ran
      split at ran
      · cases ran
      split at ran
      all_goals
        cases ran
        exact .idle rfl rfl (.of_eq rfl) rfl
    | reservingUnit customerId unitId couponCode =>
      cases ran
      exact .idle rfl rfl (.of_eq rfl) rfl
    | readingOffers customerId unitId couponCode =>
      rw [runBooking] at ran
      split at ran
      all_goals
        cases ran
        exact .idle rfl rfl (.of_eq rfl) rfl
    | creating unitId customerId hold customerCreated =>
      rw [runBooking] at ran
      split at ran
      · rename_i creates
        cases ran
        refine .drafts unitId customerId hold customerCreated rfl (fun id held => ?_) rfl rfl
        subst held
        exact any_notified (by simpa [creates] using inTurn)
      · cases ran
        refine .idle rfl rfl (.of_eq rfl) ?_
        cases hold <;> cases customerCreated <;> rfl
    | dating id =>
      cases ran
      refine .idle rfl rfl (fun _ c there => ?_) rfl
      exact Table.exists_find_modify there (fun _ => ⟨rfl, rfl, rfl⟩) ⟨rfl, rfl, rfl⟩
    | releasing unitId created =>
      rw [runBooking, if_neg (by simpa using inTurn)] at ran
      cases ran
      refine .idle rfl rfl (.of_eq rfl) ?_
      cases created <;> rfl
    | deleting customerId =>
      have goes : input.fails = false := by simpa using inTurn
      rw [runBooking, goes, Bool.false_or] at ran
      split at ran
      · rename_i has
        cases ran
        obtain ⟨c, mem, own⟩ := List.any_eq_true.mp has
        obtain ⟨k, there⟩ := Table.find_of_mem_values mem
        exact .stays customerId rfl ⟨k, c, there, of_decide_eq_true own⟩ rfl rfl (.of_eq rfl) rfl
      · cases ran
        exact .deletes customerId rfl rfl rfl (.of_eq rfl) rfl

/-- The customers and the entries are as at the start but for those of a draft, or of a booking that goes on. -/
structure LeavesSound (start : BookingDb) (s : State BookingDb BookingCall) : Prop where
  customers : ∀ id c, start.customers.find id = some c → s.db.customers.find id = some c
  added : ∀ id c, s.db.customers.find id = some c → start.customers.find id = none → c.removed = false →
    s.db.hasDraftOf id ∨ ∃ call ∈ s.running, call.newCustomer = some id
  own : ∀ call ∈ s.running, ∀ id, call.newCustomer = some id → start.customers.find id = none
  entries : ∀ id, s.db.entries.find id = start.entries.find id ∨ ∃ entry k c, start.entries.find id = some entry ∧
    s.db.contracts.find k = some c ∧ c.waitlistEntryId = some id ∧ entry.heldUnitId = some c.unitId ∧
    s.db.entries.find id = some { entry with status := .converted, convertedContractId := some k }

theorem newCustomer_answered (found : running[i]? = some call) (stay : DraftsStay db db') {id : CustomerId}
    (was : db.hasDraftOf id ∨ ∃ call ∈ running, call.newCustomer = some id)
    (handed : call.newCustomer = some id → rest.bind BookingCall.newCustomer = some id) :
    db'.hasDraftOf id ∨ ∃ call ∈ resume running i rest, call.newCustomer = some id := by
  refine was.imp stay.hasDraftOf fun runs => exists_resume found runs fun own => ?_
  exact Option.bind_eq_some_iff.mp (handed own)

section
variable (sound : LeavesSound start ⟨db, running⟩) (found : running[i]? = some call)
include sound

theorem LeavesSound.entryStays {id : WaitlistEntryId} (entries : db'.entries.find id = db.entries.find id)
    (stay : DraftsStay db db') :
    db'.entries.find id = start.entries.find id ∨ ∃ entry k c, start.entries.find id = some entry ∧
      db'.contracts.find k = some c ∧ c.waitlistEntryId = some id ∧ entry.heldUnitId = some c.unitId ∧
      db'.entries.find id = some { entry with status := .converted, convertedContractId := some k } := by
  rw [entries]
  rcases sound.entries id with unchanged | ⟨entry, k, c, there, contract, of, held, now⟩
  · exact .inl unchanged
  · obtain ⟨c', contract', unit, -, entryId⟩ := stay k c contract
    exact .inr ⟨entry, k, c', there, contract', entryId.trans of, unit ▸ held, now⟩

include found

theorem LeavesSound.ownStays (handed : ∀ id, rest.bind BookingCall.newCustomer = some id →
      call.newCustomer = some id ∨ db.customers.find id = none) :
    ∀ call ∈ resume running i rest, ∀ id, call.newCustomer = some id → start.customers.find id = none := by
  intro other mem id new
  rcases mem_resume mem with old | next
  · exact sound.own other old id new
  · rcases handed id (by rw [next]; exact new) with own | fresh
    · exact sound.own call (List.mem_of_getElem? found) id own
    · cases there : start.customers.find id with
      | none => rfl
      | some c =>
        have kept := sound.customers id c there
        dsimp only at kept
        rw [fresh] at kept
        cases kept

theorem LeavesSound.step (units : UnitsSound start ⟨db, running⟩) (inTurn : bookingInTurn db call input = true)
    (made : stepBooking db call input = some (db', rest)) : LeavesSound start ⟨db', resume running i rest⟩ := by
  cases stepBooking_leaves inTurn made with
  | idle customers entries stay handed =>
    refine ⟨fun id c there => ?_, fun id c there new live => ?_,
      sound.ownStays found fun id own => .inl (handed ▸ own), fun _ => sound.entryStays (by rw [entries]) stay⟩
    · exact customers ▸ sound.customers id c there
    · exact newCustomer_answered found stay (sound.added id c (customers ▸ there) new live) fun own => handed.trans own
  | adds email idle customers entries stay handed =>
    refine ⟨fun id c there => ?_, fun id c there new live => ?_, sound.ownStays found fun id own => .inr ?_,
      fun _ => sound.entryStays (by rw [entries]) stay⟩
    · dsimp only
      rw [customers]
      exact Table.find_push_of_some (sound.customers id c there) _
    · dsimp only at there
      rw [customers] at there
      rcases Table.find_push_cases there with old | ⟨rfl, -⟩
      · refine newCustomer_answered found stay (sound.added id c old new live) fun own => ?_
        rw [idle] at own
        cases own
      · obtain ⟨call', next, own⟩ := Option.bind_eq_some_iff.mp handed
        subst next
        exact .inr ⟨call', mem_resume_self found call', own⟩
    · rw [handed] at own
      cases own
      exact Table.find_nextKey _
  | drafts unitId customerId hold customerCreated own notified after handed =>
    subst own after
    have kept : DraftsStay db (db.create unitId customerId hold) := fun k c there =>
      ⟨c, Table.find_push_of_some there _, rfl, rfl, rfl⟩
    have drafted : (db.create unitId customerId hold).contracts.find db.contracts.nextKey =
        some ⟨unitId, customerId, hold, none⟩ := by
      change (db.contracts.push _).find _ = _
      rw [Table.find_push, if_pos rfl]
    refine ⟨sound.customers, fun id c there new live => ?_, sound.ownStays found fun id own => ?_, fun id => ?_⟩
    · by_cases same : id = customerId
      · exact .inl ⟨_, _, drafted, same.symm⟩
      · refine newCustomer_answered found kept (sound.added id c there new live) fun own => ?_
        cases customerCreated <;> cases own
        exact (same rfl).elim
    · rw [handed] at own
      cases own
    · cases hold with
      | none =>
        have same : (db.create unitId customerId none).entries.find id = db.entries.find id := rfl
        exact sound.entryStays same kept
      | some entryId =>
        by_cases same : id = entryId
        · subst same
          obtain ⟨entry, there, status⟩ := notified id rfl
          obtain ⟨entry0, start0, -, held0⟩ := units.known _ (List.mem_of_getElem? found)
          have was := units.entries id entry there status
          rw [start0] at was
          cases was
          refine .inr ⟨entry, _, _, start0, drafted, rfl, held0, ?_⟩
          change (db.entries.modify id _).find id = _
          rw [Table.find_modify_self, there, Option.map_some, if_pos (.inr status)]
        · refine sound.entryStays ?_ kept
          exact Table.find_modify_ne _ same _
  | deletes id own customers entries stay handed =>
    refine ⟨fun id' c there => ?_, fun id' c there new live => ?_, sound.ownStays found fun id' own' => ?_,
      fun _ => sound.entryStays (by rw [entries]) stay⟩
    · dsimp only
      have other : id' ≠ id := by
        rintro rfl
        have fresh := sound.own call (List.mem_of_getElem? found) id' own
        rw [fresh] at there
        cases there
      rw [customers, Table.find_modify_ne _ other]
      exact sound.customers id' c there
    · dsimp only at there
      rw [customers] at there
      rcases Table.find_modify_cases there with ⟨other, old⟩ | ⟨-, c', -, rfl⟩
      · refine newCustomer_answered found stay (sound.added id' c old new live) fun own' => ?_
        rw [own] at own'
        exact (other (Option.some.inj own').symm).elim
      · cases live
    · rw [handed] at own'
      cases own'
  | stays id own has customers entries stay handed =>
    refine ⟨fun id' c there => ?_, fun id' c there new live => ?_, sound.ownStays found fun id' own' => ?_,
      fun _ => sound.entryStays (by rw [entries]) stay⟩
    · exact customers ▸ sound.customers id' c there
    · by_cases same : id' = id
      · subst same
        exact .inl (stay.hasDraftOf has)
      · refine newCustomer_answered found stay (sound.added id' c (customers ▸ there) new live) fun own' => ?_
        rw [own] at own'
        exact (same (Option.some.inj own').symm).elim
    · rw [handed] at own'
      cases own'

end

theorem LeavesSound.enters (sound : LeavesSound start ⟨db, running⟩) {request : BookingRequest}
    (entered : enterBooking db request = some call) : LeavesSound start ⟨db, running ++ [call]⟩ := by
  have idle : call.newCustomer = none := by
    cases request <;> cases entered <;> rfl
  refine ⟨sound.customers, fun id c there new live => ?_, fun other mem id own => ?_, sound.entries⟩
  · refine (sound.added id c there new live).imp_right fun ⟨other, mem, own⟩ => ?_
    exact ⟨other, List.mem_append_left _ mem, own⟩
  · rcases List.mem_append.mp mem with old | last
    · exact sound.own other old id own
    · rw [List.mem_singleton.mp last, idle] at own
      cases own

/-! ### A whole run -/

def HeldUnit (s : State BookingDb BookingCall) (u : UnitId) : Prop :=
  (∃ c ∈ s.db.contracts.values, c.unitId = u) ∨ ∃ call ∈ s.running, call.reserved = some u

theorem made_eq_zero (db : BookingDb) (u : UnitId) :
    unitCustody.made db u = 0 ↔ ∀ c ∈ db.contracts.values, c.unitId ≠ u := by
  change List.count u _ = 0 ↔ _
  rw [List.count_eq_zero, List.mem_map, not_exists]
  exact forall_congr' fun _ => not_and

theorem holds_eq_zero (call : BookingCall) (u : UnitId) : unitCustody.holds call u = 0 ↔ call.reserved ≠ some u := by
  change (if call.reserved = some u then 1 else 0) = 0 ↔ _
  rw [ite_eq_right_iff, Ne]
  exact forall_congr' fun _ => by decide

theorem not_held_iff (s : State BookingDb BookingCall) (u : UnitId) : unitCustody.total s u = 0 ↔ ¬HeldUnit s u := by
  simp only [Custody.total_eq_zero, made_eq_zero, holds_eq_zero]
  constructor
  · rintro ⟨noDraft, noCall⟩ (⟨c, mem, own⟩ | ⟨call, mem, own⟩)
    · exact noDraft c mem own
    · exact noCall call mem own
  · intro free
    exact ⟨fun c mem own => free (.inl ⟨c, mem, own⟩), fun call mem own => free (.inr ⟨call, mem, own⟩)⟩

/-- What holds at every moment of a run. The rest of the database is as before the bookings. -/
structure BookingsExclusive (start : BookingDb) (s : State BookingDb BookingCall) : Prop where
  drafts : (s.db.contracts.values.map BookingContract.unitId).Nodup
  /-- A booking lets go of a unit that is its own alone. -/
  releases : ∀ (i : ℕ) u created, s.running[i]? = some (.releasing u created) →
    (∀ c ∈ s.db.contracts.values, c.unitId ≠ u) ∧
    (∀ (j : ℕ) call, s.running[j]? = some call → j ≠ i → call.reserved ≠ some u) ∧
    ∀ id entry, s.db.entries.find id = some entry → entry.status = .notified → entry.heldUnitId ≠ some u
  units : ∀ u, s.db.units.find u = start.units.find u ∨
    HeldUnit s u ∧ s.db.units.find u = (start.units.find u).map fun unit => { unit with status := .reserved }
  reserved : ∀ u unit, HeldUnit s u → s.db.units.find u = some unit → unit.status = .reserved
  customers : ∀ id c, s.db.customers.find id = some c → c.removed = false → start.customers.find id = some c ∨
    s.db.hasDraftOf id ∨ ∃ call ∈ s.running, call.newCustomer = some id
  kept : ∀ id c, start.customers.find id = some c → s.db.customers.find id = some c
  entries : ∀ id, s.db.entries.find id = start.entries.find id ∨ ∃ entry k c, start.entries.find id = some entry ∧
    s.db.contracts.find k = some c ∧ c.waitlistEntryId = some id ∧ entry.heldUnitId = some c.unitId ∧
    s.db.entries.find id = some { entry with status := .converted, convertedContractId := some k }

theorem BookingsExclusive.of (sound : UnitsSound start s) (leaves : LeavesSound start s) :
    BookingsExclusive start s where
  drafts := List.nodup_iff_count_le_one.mpr fun u => Custody.once_made (R := unitCustody) sound.once u
  releases := by
    intro i u created found
    obtain ⟨none_, alone⟩ := Custody.once_alone (R := unitCustody) (k := u) sound.once found (if_pos rfl)
    refine ⟨(made_eq_zero _ _).mp none_, fun j call there other => ?_, ?_⟩
    · exact (holds_eq_zero _ _).mp (alone j call there other)
    · intro id entry there notified held
      have free := (not_held_iff s u).mp (sound.free id entry u there notified held)
      exact free (.inr ⟨_, List.mem_of_getElem? found, rfl⟩)
  units := by
    intro u
    have unit := sound.units u
    by_cases held : HeldUnit s u
    · have some_ : unitCustody.total s u ≠ 0 := fun none_ => (not_held_iff s u).mp none_ held
      simp only [some_, if_false] at unit
      exact .inr ⟨held, unit⟩
    · simp only [(not_held_iff s u).mpr held, if_true, Option.map_id'] at unit
      exact .inl unit
  reserved := by
    intro u unit held there
    have some_ : unitCustody.total s u ≠ 0 := fun none_ => (not_held_iff s u).mp none_ held
    rw [sound.units u] at there
    obtain ⟨_, -, rfl⟩ := Option.map_eq_some_iff.mp there
    rw [if_neg some_]
  customers := by
    intro id c there live
    cases start0 : start.customers.find id with
    | none => exact .inr (leaves.added id c there start0 live)
    | some c0 =>
      have same := leaves.customers id c0 start0
      rw [there] at same
      exact .inl same.symm
  kept := leaves.customers
  entries := leaves.entries

theorem bookings_exclusive (before : BeforeBookings start)
    (run : Run bookingSystem.step (System.admits fun db call input => bookingInTurn db call input = true)
      ⟨start, []⟩ s) :
    BookingsExclusive start s := by
  have sound : UnitsSound start s ∧ LeavesSound start s := by
    apply System.invariant_in (J := fun x => UnitsSound start x ∧ LeavesSound start x)
      (run.mono fun x a fits => by cases a <;> exact fits)
    · refine ⟨before.unitsSound, fun _ _ there => there, fun id c there new => ?_,
        fun _ mem => (List.not_mem_nil mem).elim, fun _ => .inl rfl⟩
      dsimp only at there
      rw [new] at there
      cases there
    · intro db running request call both entered
      exact ⟨both.1.enters entered, both.2.enters entered⟩
    · intro db running i call input db' rest both fits found made
      have inTurn := stepBooking_inTurn both.1 found fits made
      exact ⟨both.1.step before found inTurn.effect inTurn.owned inTurn.known, both.2.step found both.1 fits made⟩
  exact .of sound.1 sound.2

/-! ### A local with two units of a type, the second held for an entry of the waiting list, and one customer -/

def localUnit (status : UnitStatus) (code : ℕ) : BookableUnit := ⟨0, 0, status, 5000, code, true⟩

def twoUnits : BookingDb where
  units := (Table.empty.push (localUnit .available 0)).push (localUnit .reserved 1)
  reservations := []
  entries := Table.empty.push ⟨0, 0, some 1, .notified, none⟩
  customers := Table.empty.push ⟨"ana@storage.es", false⟩
  tenancies := [(0, 0)]
  contracts := .empty
  locks := []

theorem twoUnits_before : BeforeBookings twoUnits where
  contracts := rfl
  locks := rfl
  held := by
    intro id entry u found _ held unit there
    cases List.mem_singleton.mp (Table.mem_of_find found)
    cases held
    cases there
    rfl
  apart := by
    intro id id' entry entry' u found found' _ _ _ _
    cases List.mem_singleton.mp (Table.mem_of_find found)
    cases List.mem_singleton.mp (Table.mem_of_find found')
    rfl

def bookingStep (i : ℕ) : Action BookingRequest BookingInput := .advance i ⟨0, false, false, false⟩

def bookingFails (i : ℕ) : Action BookingRequest BookingInput := .advance i ⟨0, false, false, true⟩

def newBooking (holdToken : Option WaitlistEntryId) : BookingRequest :=
  .createBooking ⟨0, 0, "luis@storage.es", holdToken⟩

/-- The unit held for the entry is booked with its token; a booking of the other fails, and the customer of the local
then books it. -/
def bookedBoth : List (Action BookingRequest BookingInput) :=
  .start (newBooking (some 0)) :: List.replicate 5 (bookingStep 0) ++
    [.start (.createBooking ⟨0, 0, "eva@storage.es", none⟩), bookingStep 0, bookingStep 0, bookingStep 0,
      bookingFails 0, bookingStep 0, bookingStep 0] ++
    .start (.bookForExistingCustomer 0 0 false) :: List.replicate 6 (bookingStep 0)

theorem bookings_exclusive_both : ∃ x : State BookingDb BookingCall, x.running = [] ∧
    x.db.contracts.values.map (fun c => (c.unitId, c.customerId)) = [(1, 1), (0, 0)] ∧
    x.db.customers.values.map BookingCustomer.removed = [false, false, true] ∧ BookingsExclusive twoUnits x := by
  obtain ⟨x, run, reached⟩ := Run.exists_of_exec bookingSystem.step
    (System.admits fun db call input => bookingInTurn db call input = true) ⟨twoUnits, []⟩ bookedBoth
    (fun x => x.running = [] ∧ x.db.contracts.values.map (fun c => (c.unitId, c.customerId)) = [(1, 1), (0, 0)] ∧
      x.db.customers.values.map BookingCustomer.removed = [false, false, true])
    (by decide +kernel)
  obtain ⟨over_, drafts, removed⟩ := of_decide_eq_true reached
  exact ⟨x, over_, drafts, removed, bookings_exclusive twoUnits_before run⟩

/-- Two drafts of a unit, a draft of a unit that is not reserved, or a unit without a draft that is not as it was. -/
def BookingDb.amiss (start db : BookingDb) : Prop :=
  ¬(db.contracts.values.map BookingContract.unitId).Nodup ∨
    (∃ c ∈ db.contracts.values, ∃ unit ∈ db.units.find c.unitId, unit.status ≠ .reserved) ∨
    ∃ q ∈ db.units.rows, (∀ c ∈ db.contracts.values, c.unitId ≠ q.1) ∧ start.units.find q.1 ≠ some q.2

instance : Decidable (BookingDb.amiss start db) :=
  inferInstanceAs (Decidable (_ ∨ _ ∨ _))

theorem BookingDb.amiss.differ (over_ : s.running = []) (amiss : BookingDb.amiss start s.db) :
    ¬BookingsExclusive start s := by
  intro exclusive
  rcases amiss with twice | ⟨c, mem, unit, found, status⟩ | ⟨q, mem, free, changed⟩
  · exact twice exclusive.drafts
  · exact status (exclusive.reserved c.unitId unit (.inl ⟨c, mem, rfl⟩) found)
  · have found := Table.find_of_mem mem
    rcases exclusive.units q.1 with same | ⟨held, -⟩
    · exact changed (same ▸ found)
    · rcases held with ⟨c, has, own⟩ | ⟨call, running, -⟩
      · exact free c has own
      · rw [over_] at running
        cases running

/-- A public booking and one of the portal reserve a unit at once, each under the lock of its own; the same where the
portal's draft is refused; two bookings take a unit with one token; and a booking of the portal ends on an error
between the reservation and the draft. -/
def againstTheBookings : List (List (Action BookingRequest BookingInput)) :=
  let both := [.start (newBooking none), .start (.bookForExistingCustomer 0 0 false), bookingStep 0, bookingStep 1,
    bookingStep 0, bookingStep 1, bookingStep 0, bookingStep 1, bookingStep 1, bookingStep 0, bookingStep 0]
  [both ++ [bookingStep 0, bookingStep 0],
    both ++ [bookingFails 0, bookingStep 0],
    .start (newBooking (some 0)) :: .start (newBooking (some 0)) :: bookingStep 0 :: bookingStep 1 ::
      List.replicate 4 (bookingStep 0) ++ List.replicate 4 (bookingStep 0),
    .start (.bookForExistingCustomer 0 0 false) :: List.replicate 3 (bookingStep 0) ++
      [.advance 0 ⟨0, false, true, false⟩]]

theorem bookings_exclusive_differ : BeforeBookings twoUnits ∧ ∀ actions ∈ againstTheBookings, ∃ x,
    Reaches bookingSystem.step ⟨twoUnits, []⟩ x ∧ x.running = [] ∧ ¬BookingsExclusive twoUnits x := by
  refine ⟨twoUnits_before, fun actions mem => ?_⟩
  have replayed : (againstTheBookings.all fun actions =>
      (exec (fun x a => if True then bookingSystem.step x a else none) ⟨twoUnits, []⟩ actions).any
        fun x => decide (x.running = [] ∧ BookingDb.amiss twoUnits x.db)) = true := by
    decide +kernel
  obtain ⟨x, run, differ⟩ := Run.exists_of_exec bookingSystem.step (fun _ _ => True) ⟨twoUnits, []⟩ actions
    (fun x => x.running = [] ∧ BookingDb.amiss twoUnits x.db) (List.all_eq_true.mp replayed actions mem)
  obtain ⟨over_, amiss⟩ := of_decide_eq_true differ
  exact ⟨x, run, over_, amiss.differ over_⟩

end StorageOS
