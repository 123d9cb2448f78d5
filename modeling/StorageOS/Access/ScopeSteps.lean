import StorageOS.Access.Scope

/-! What each transaction does to the credentials that follow the contracts of their customers, in the
runs where scopes are given and written in order. -/

namespace StorageOS

open Transition Processes

/-- A live credential whose scope is that of the contracts of its customer. A night pass keeps the
scope it was made with. -/
def ScopedCredential.follows (c : ScopedCredential) (customerId : CustomerId) : Bool :=
  c.customerId = some customerId && c.status.alive && c.grant = .contracts &&
    c.source ≠ some "night_pass"

/-- Revokes the credential unless the customer has live contracts. -/
def ScopeCall.revokes (customerId : CustomerId) (id : CredentialId) : ScopeCall → Bool
  | .countingLive k | .collecting k => k = customerId
  | .revoking k ids => k = customerId && id ∈ ids
  | _ => false

def ScopeCall.revises (customerId : CustomerId) (id : CredentialId) : ScopeCall → Bool
  | .rescoping k | .rescopingRead k _ => k = customerId
  | .rescopingEach k _ rows => k = customerId && id ∈ rows.map Prod.fst
  | call => call.revokes customerId id

/-- The facilities and units that the staff give exist and are theirs, a scope is written while the
contracts still give it, and a customer who keeps contracts after one ends has no credential outside
them. -/
def scopeInOrder (db : ScopeDb) (call : ScopeCall) (_ : ScopeInput) : Bool :=
  match call with
  | .resolving staff customerId allFacilities asked _
  | .resolvingUpdate staff _ customerId allFacilities asked =>
    (resolveManualScope db staff customerId allFacilities asked).all fun (scope, grant) =>
      grant = .everything || !scope.allowedFacilityIds.isEmpty
  | .resolvingFacial staff customerId facilityIds unitIds =>
    let (scope, grant) := facialScope db staff customerId facilityIds unitIds
    !scope.allowedFacilityIds.isEmpty &&
      (grant = .contracts || scope.allowedFacilityIds.all fun id => isFacilityAllowed staff id)
  | .creating customerId scope .contracts kind =>
    kind.source = some "night_pass" || db.covers customerId scope
  | .writing _ (some customerId) scope .contracts => db.covers customerId scope
  | .rescopingRead customerId scope | .rescopingEach customerId scope _ =>
    db.covers customerId scope
  | .countingLive customerId => (db.liveContracts customerId none).isEmpty ||
      db.credentials.values.all fun c => !c.follows customerId || db.covers customerId c.scope
  | _ => true

/-! ### Scopes as they were given -/

def ScopeDb.granted (db : ScopeDb) (scope : AccessScope) : Grant → Prop
  | .everything => True
  | .chosen staff asked => scope.allowedFacilityIds ≠ [] ∧
    (∀ id ∈ scope.allowedFacilityIds, isFacilityAllowed staff id ∧
      (id ∈ asked.allowedFacilityIds ∨
        ∃ unitId ∈ asked.allowedUnitIds, db.units.find unitId = some id)) ∧
    ∀ id ∈ scope.allowedUnitIds, id ∈ asked.allowedUnitIds
  | .contracts => scope.allowedFacilityIds ≠ []

def ScopeDb.owner (db : ScopeDb) (id : CredentialId) : Option (Option CustomerId) :=
  (db.credentials.find id).map fun c => c.customerId

/-- The units of contracts exist and the credentials of customers are as they were given. -/
structure ScopeDb.Given (db : ScopeDb) : Prop where
  placed : db.placed
  granted : ∀ id c, db.credentials.find id = some c → c.customerId.isSome → db.granted c.scope c.grant

def ScopeCall.Carries (db : ScopeDb) : ScopeCall → Prop
  | .creating _ scope grant _ => db.granted scope grant
  | .writing id none _ _ => db.owner id = some none
  | .writing id (some customerId) scope grant =>
    db.owner id = some (some customerId) ∧ db.granted scope grant
  | .resolvingUpdate _ id customerId _ _ => db.owner id = some (some customerId)
  | .rescopingRead _ scope => scope.allowedFacilityIds ≠ []
  | .rescopingEach customerId scope rows => scope.allowedFacilityIds ≠ [] ∧
    ∀ q ∈ rows, db.owner q.1 = some (some customerId)
  | _ => True

structure ScopeKept (db db' : ScopeDb) : Prop where
  units : db'.units = db.units
  owner : ∀ id k, db.owner id = some k → db'.owner id = some k

theorem ScopeKept.refl (db : ScopeDb) : ScopeKept db db := ⟨rfl, fun _ _ h => h⟩

variable {scope : AccessScope} {grant : Grant} {staff : FacilityScope} {customerId : CustomerId} {k : CustomerId}
  {id : CredentialId} {c : ScopedCredential} {db : ScopeDb}

theorem granted_congr {db' : ScopeDb} (same : db'.units = db.units) (given : db.granted scope grant) :
    db'.granted scope grant := by
  cases grant with
  | everything => trivial
  | chosen staff asked => simpa [ScopeDb.granted, same] using given
  | contracts => exact given

variable {call : ScopeCall}

theorem carries_kept {db' : ScopeDb} (kept : ScopeKept db db') (carried : call.Carries db) : call.Carries db' := by
  cases call with
  | creating _ scope grant _ => exact granted_congr kept.units carried
  | writing id k scope grant =>
    cases k with
    | none => exact kept.owner _ _ carried
    | some k => exact ⟨kept.owner _ _ carried.1, granted_congr kept.units carried.2⟩
  | resolvingUpdate => exact kept.owner _ _ carried
  | rescopingEach => exact ⟨carried.1, fun q mem => kept.owner _ _ (carried.2 q mem)⟩
  | _ => exact carried

theorem granted_manual {allFacilities : Bool} {asked scope : AccessScope}
    (resolved : resolveManualScope db staff customerId allFacilities asked = some (scope, grant))
    (placed : grant = .everything ∨ scope.allowedFacilityIds ≠ []) : db.granted scope grant := by
  rw [resolveManualScope] at resolved
  split at resolved
  · split at resolved
    · cases resolved
    · cases resolved
      trivial
  split at resolved
  · split at resolved
    · rename_i allowed
      cases resolved
      simp only [Bool.and_eq_true, List.all_eq_true] at allowed
      refine ⟨placed.resolve_left (by simp), fun id mem => ?_, fun id mem => mem⟩
      rcases List.mem_append.mp (List.mem_eraseDups.mp mem) with mem | mem
      · exact ⟨allowed.1 id mem, .inl mem⟩
      · obtain ⟨⟨unitId, facilityId⟩, row, rfl⟩ := List.mem_map.mp mem
        obtain ⟨stored, wanted⟩ := List.mem_filter.mp row
        exact ⟨allowed.2 _ mem, .inr ⟨unitId, by simpa using wanted,
          Table.find_eq_some.mpr stored⟩⟩
    · cases resolved
  · dsimp only at resolved
    split at resolved
    · cases resolved
    · rename_i own
      cases resolved
      simpa [ScopeDb.granted] using own

theorem resolving_granted {allFacilities : Bool} {asked scope : AccessScope}
    (inOrder : (resolveManualScope db staff customerId allFacilities asked).all fun p =>
      p.2 = .everything || !p.1.allowedFacilityIds.isEmpty)
    (resolved : resolveManualScope db staff customerId allFacilities asked = some (scope, grant)) :
    db.granted scope grant := by
  rw [resolved] at inOrder
  exact granted_manual resolved (by simpa using inOrder)

theorem granted_facial {facilityIds : Option (List FacilityId)} {unitIds : Option (List UnitId)}
    (resolved : facialScope db staff customerId facilityIds unitIds = (scope, grant))
    (placed : scope.allowedFacilityIds ≠ [])
    (allowed : grant = .contracts ∨ ∀ id ∈ scope.allowedFacilityIds, isFacilityAllowed staff id = true) :
    db.granted scope grant := by
  rw [facialScope] at resolved
  split at resolved
  · cases resolved
    exact ⟨placed, fun id mem => ⟨allowed.resolve_left (by simp) id mem, .inl mem⟩, fun id mem => mem⟩
  · cases resolved
    exact placed

/-! ### What a transaction does -/

/-- What a transaction keeps, and how a credential that follows the contracts stays covered by them:
the transaction covers it, or its request goes on to, or nothing changes for it. -/
structure ScopeStep (db : ScopeDb) (call : ScopeCall) (db' : ScopeDb) (rest : Option ScopeCall) :
    Prop where
  kept : ScopeKept db db'
  given : db'.Given
  carried : ∀ r, rest = some r → r.Carries db'
  revised : ∀ id c k, db'.credentials.find id = some c → c.follows k → db'.covers k c.scope ∨
    (∃ r, rest = some r ∧ r.revises k id) ∨
    ∃ c₀, db.credentials.find id = some c₀ ∧ c₀.follows k ∧
      (db.covers k c₀.scope → db'.covers k c.scope) ∧
      (call.revises k id = false ∨
        db.liveContracts k none = [] ∧ call.revokes k id = false)
  revoked : ∀ id c k, db'.credentials.find id = some c → c.follows k →
    db'.liveContracts k none = [] → (∃ r, rest = some r ∧ r.revokes k id) ∨
    ∃ c₀, db.credentials.find id = some c₀ ∧ c₀.follows k ∧ db.liveContracts k none = [] ∧
      call.revokes k id = false

section

variable {db : ScopeDb} {call : ScopeCall} {rest : Option ScopeCall}

theorem revises_of_revokes (revokes : call.revokes k id) : call.revises k id := by
  cases call with
  | countingLive | collecting | revoking => exact revokes
  | _ => simp [ScopeCall.revokes] at revokes

theorem not_revokes (quiet : call.revises k id = false) : call.revokes k id = false := by
  by_contra revokes
  rw [revises_of_revokes (by simpa using revokes)] at quiet
  cases quiet

/-- A transaction that only reads. What its request would do for a credential it goes on doing. -/
theorem ScopeStep.read (given : db.Given) (carried : ∀ r, rest = some r → r.Carries db)
    (revised : ∀ id c k, db.credentials.find id = some c → c.follows k → call.revises k id →
      db.covers k c.scope ∨ (∃ r, rest = some r ∧ r.revises k id) ∨
        db.liveContracts k none = [] ∧ call.revokes k id = false)
    (revoked : ∀ id c k, db.credentials.find id = some c → c.follows k →
      db.liveContracts k none = [] → call.revokes k id → ∃ r, rest = some r ∧ r.revokes k id) :
    ScopeStep db call db rest where
  kept := .refl db
  given
  carried
  revised := by
    intro id c k found follows
    by_cases does : call.revises k id
    · rcases revised id c k found follows does with covered | goes_on | empty
      · exact .inl covered
      · exact .inr (.inl goes_on)
      · exact .inr (.inr ⟨c, found, follows, fun h => h, .inr empty⟩)
    · exact .inr (.inr ⟨c, found, follows, fun h => h, .inl (by simpa using does)⟩)
  revoked := by
    intro id c k found follows empty
    by_cases does : call.revokes k id
    · exact .inl (revoked id c k found follows empty does)
    · exact .inr ⟨c, found, follows, empty, by simpa using does⟩

/-- A transaction that only reads, of a request that does nothing for the credentials there are. -/
theorem ScopeStep.quiet (given : db.Given) (carried : ∀ r, rest = some r → r.Carries db)
    (quiet : ∀ k id, call.revises k id = false) : ScopeStep db call db rest :=
  .read given carried (fun id _ k _ _ does => by simp [quiet k id] at does)
    fun id _ k _ _ _ does => by simp [not_revokes (quiet k id)] at does

/-- A contract that changes stays as it was for the credentials of a customer, or else a request goes
on to revise them, and to revoke them where it was the last one. -/
theorem ScopeStep.contract {id : ContractId} {f : ScopeContract → ScopeContract}
    (given : db.Given) (carried : ∀ r, rest = some r → r.Carries (db.updateContract id f))
    (quiet : ∀ k id, call.revises k id = false)
    (placed : ∀ c, db.contracts.find id = some c → (db.units.find (f c).unitId).isSome)
    (each : ∀ k c, db.contracts.find id = some c → c.customerId = k → c.live →
      ((f c).customerId = k ∧ (f c).live ∧ (f c).unitId = c.unitId) ∨
      ((f c).customerId = k ∧ (f c).live ∧ rest = some (.rescoping k)) ∨
      rest = some (.countingLive k)) :
    ScopeStep db call (db.updateContract id f) rest where
  kept := ⟨rfl, fun _ _ h => h⟩
  given := ⟨placed_updateContract given.placed placed, given.granted⟩
  carried
  revised := by
    intro j c k found follows
    by_cases goes_on : rest = some (.rescoping k) ∨ rest = some (.countingLive k)
    · rcases goes_on with rfl | rfl
      · exact .inr (.inl ⟨_, rfl, by simp [ScopeCall.revises]⟩)
      · exact .inr (.inl ⟨_, rfl, by simp [ScopeCall.revises, ScopeCall.revokes]⟩)
    · refine .inr (.inr ⟨c, found, follows, fun covered => ?_, .inl (quiet k j)⟩)
      refine covers_updateContract covered fun c found own live => ?_
      rcases each k c found own live with same | ⟨-, -, goes⟩ | goes
      · exact same
      · exact absurd (.inl goes) goes_on
      · exact absurd (.inr goes) goes_on
  revoked := by
    intro j c k found follows empty
    by_cases goes : rest = some (.countingLive k)
    · exact .inl ⟨_, goes, by simp [ScopeCall.revokes]⟩
    · refine .inr ⟨c, found, follows, ?_, not_revokes (quiet k j)⟩
      by_contra live
      refine live_updateContract live (fun c found own live => ?_) empty
      rcases each k c found own live with ⟨own, live, -⟩ | ⟨own, live, -⟩ | counts
      · exact ⟨own, live⟩
      · exact ⟨own, live⟩
      · exact absurd counts goes

/-- A credential that is changed is left within the contracts of its customer, or follows them no
more; what the request would do for the others it goes on doing. -/
theorem ScopeStep.credential {f : ScopedCredential → ScopedCredential} (given : db.Given)
    (carried : ∀ r, rest = some r → r.Carries db) (owner : ∀ c, (f c).customerId = c.customerId)
    (granted : ∀ c, db.credentials.find id = some c → c.customerId.isSome → db.granted (f c).scope (f c).grant)
    (own : ∀ c k, db.credentials.find id = some c → (f c).follows k →
      db.covers k (f c).scope ∧ (f c).scope.allowedFacilityIds ≠ [])
    (others : ∀ j k, j ≠ id → (call.revises k j → ∃ r, rest = some r ∧ r.revises k j) ∧
      (call.revokes k j → ∃ r, rest = some r ∧ r.revokes k j)) :
    ScopeStep db call (db.updateCredential id f) rest := by
  have kept : ScopeKept db (db.updateCredential id f) := by
    refine ⟨rfl, fun j k has => ?_⟩
    rw [ScopeDb.owner, Option.map_eq_some_iff] at has ⊢
    obtain ⟨c, found, rfl⟩ := has
    exact Table.exists_find_modify found (fun _ => owner c) rfl
  refine ⟨kept, ⟨given.placed, fun j c found customer => ?_⟩,
    fun r goes => carries_kept kept (carried r goes), fun j c k found follows => ?_,
    fun j c k found follows empty => ?_⟩
  · rcases Table.find_modify_cases found with ⟨-, before⟩ | ⟨-, c₀, before, rfl⟩
    · exact given.granted j c before customer
    · exact granted c₀ before (owner c₀ ▸ customer)
  · rcases Table.find_modify_cases found with ⟨other, before⟩ | ⟨-, c₀, before, rfl⟩
    · by_cases does : call.revises k j
      · exact .inr (.inl ((others j k other).1 does))
      · exact .inr (.inr ⟨c, before, follows, fun h => h, .inl (by simpa using does)⟩)
    · exact .inl (own c₀ k before follows).1
  · rcases Table.find_modify_cases found with ⟨other, before⟩ | ⟨-, c₀, before, rfl⟩
    · by_cases does : call.revokes k j
      · exact .inl ((others j k other).2 does)
      · exact .inr ⟨c, before, follows, empty, by simpa using does⟩
    · obtain ⟨covered, some_facility⟩ := own c₀ k before follows
      exact absurd empty (live_of_covers covered some_facility)

/-- A new credential is within the contracts of its customer, where it follows them. -/
theorem ScopeStep.push (given : db.Given) (quiet : ∀ k id, call.revises k id = false)
    (granted : c.customerId.isSome → db.granted c.scope c.grant)
    (own : ∀ k, c.follows k → db.covers k c.scope ∧ c.scope.allowedFacilityIds ≠ []) :
    ScopeStep db call { db with credentials := db.credentials.push c } none := by
  have cases_push : ∀ j c', (db.credentials.push c).find j = some c' →
      db.credentials.find j = some c' ∨ c' = c := by
    intro j c' found
    rw [Table.find_push] at found
    split at found
    · exact .inr (Option.some.inj found).symm
    · exact .inl found
  refine ⟨⟨rfl, fun j k has => ?_⟩, ⟨given.placed, fun j c' found customer => ?_⟩, by simp,
    fun j c' k found follows => ?_, fun j c' k found follows empty => ?_⟩
  · rw [ScopeDb.owner, Option.map_eq_some_iff] at has ⊢
    obtain ⟨c', found, rfl⟩ := has
    exact ⟨c', Table.find_push_of_some found c, rfl⟩
  · rcases cases_push j c' found with before | rfl
    · exact given.granted j c' before customer
    · exact granted customer
  · rcases cases_push j c' found with before | rfl
    · exact .inr (.inr ⟨c', before, follows, fun h => h, .inl (quiet k j)⟩)
    · exact .inl (own k follows).1
  · rcases cases_push j c' found with before | rfl
    · exact .inr ⟨c', before, follows, empty, not_revokes (quiet k j)⟩
    · obtain ⟨covered, some_facility⟩ := own k follows
      exact absurd empty (live_of_covers covered some_facility)

end

variable (follows : c.follows k)
include follows

theorem follows_customer : c.customerId = some k := by
  simp only [ScopedCredential.follows, Bool.and_eq_true, decide_eq_true_eq] at follows
  exact follows.1.1.1

theorem follows_alive : c.status.alive := by
  simp only [ScopedCredential.follows, Bool.and_eq_true] at follows
  exact follows.1.1.2

theorem follows_grant : c.grant = .contracts := by
  simp only [ScopedCredential.follows, Bool.and_eq_true, decide_eq_true_eq] at follows
  exact follows.1.2

theorem follows_source : c.source ≠ some "night_pass" := by
  simp only [ScopedCredential.follows, Bool.and_eq_true, decide_eq_true_eq] at follows
  exact follows.2

omit follows

/-- A credential that follows the contracts and needs no other scope has theirs. -/
theorem covers_of_needless (covered : db.covers k scope) (follows : c.follows k)
    (some_facility : c.scope.allowedFacilityIds ≠ []) (needless : c.needsRescope scope = false) :
    db.covers k c.scope := by
  have facilities : c.allowedFacilityIds.isEmpty = false := by
    simpa [ScopedCredential.scope] using some_facility
  simp only [ScopedCredential.needsRescope, follows_source follows, facilities, ne_eq,
    not_false_eq_true, decide_true, Bool.false_and, Bool.not_false, Bool.true_and,
    Bool.not_eq_false', Bool.and_eq_true, List.isPerm_iff] at needless
  exact covers_perm covered needless.1 needless.2

abbrev ScopeTakes (db : ScopeDb) (call : ScopeCall) (input : ScopeInput) : Prop :=
  ScopeStep db call (nextScope db call input).1 (nextScope db call input).2

section

variable {db : ScopeDb} (given : db.Given)

include given

theorem signing_step (id : ContractId) (deferAccess : Bool) (input : ScopeInput) :
    ScopeTakes db (.signing id deferAccess) input := by
  unfold ScopeTakes nextScope
  dsimp only
  split
  · exact .quiet given (by simp) fun _ _ => rfl
  rename_i c found
  split
  · rename_i draft
    refine .contract given ?_ (fun _ _ => rfl) ?_ ?_
    · intro r goes
      split at goes <;> cases goes
      trivial
    · intro c' found'
      exact given.placed c' (Table.mem_values.mpr ⟨id, found'⟩)
    · intro k c' found' own live
      cases found.symm.trans found'
      simp [ScopeContract.live, draft] at live
  · exact .quiet given (by simp) fun _ _ => rfl

theorem opening_step (id : ContractId) (input : ScopeInput) :
    ScopeTakes db (.opening id) input := by
  unfold ScopeTakes nextScope
  dsimp only
  split
  · exact .quiet given (by simp) fun _ _ => rfl
  rename_i c found
  split
  · refine .contract given ?_ (fun _ _ => rfl) ?_ ?_
    · intro r goes
      split at goes <;> cases goes
      trivial
    · intro c' found'
      exact given.placed c' (Table.mem_values.mpr ⟨id, found'⟩)
    · intro k c' found' own live
      refine .inl ⟨own, ?_, rfl⟩
      simp only [ScopeContract.live, Bool.and_eq_true] at live ⊢
      exact ⟨⟨live.1.1, by simp⟩, live.2⟩
  · exact .quiet given (by simp) fun _ _ => rfl

theorem moving_step (id : ContractId) (unitId : UnitId) (input : ScopeInput) :
    ScopeTakes db (.moving id unitId) input := by
  unfold ScopeTakes nextScope
  dsimp only
  split
  · exact .quiet given (by simp) fun _ _ => rfl
  rename_i c found
  split
  · rename_i movable
    simp only [Bool.and_eq_true] at movable
    refine .contract given (by simp [ScopeCall.Carries]) (fun _ _ => rfl) (fun _ _ => movable.2) ?_
    intro k c' found' own live
    cases found.symm.trans found'
    exact .inr (.inl ⟨own, live, by rw [own]⟩)
  · exact .quiet given (by simp) fun _ _ => rfl

theorem ending_step (id : ContractId) (status : ContractStatus) (input : ScopeInput) :
    ScopeTakes db (.ending id status) input := by
  unfold ScopeTakes nextScope
  dsimp only
  split
  · exact .quiet given (by simp) fun _ _ => rfl
  rename_i c found
  split
  · refine .contract given (by simp [ScopeCall.Carries]) (fun _ _ => rfl) ?_ ?_
    · intro c' found'
      exact given.placed c' (Table.mem_values.mpr ⟨id, found'⟩)
    · intro k c' found' own live
      cases found.symm.trans found'
      exact .inr (.inr (by rw [own]))
  · exact .quiet given (by simp) fun _ _ => rfl

theorem rescoping_step (customerId : CustomerId) (input : ScopeInput) :
    ScopeTakes db (.rescoping customerId) input := by
  unfold ScopeTakes nextScope
  dsimp only
  split
  · rename_i empty
    have gone := noLive_of_noFacility given.placed (List.isEmpty_iff.mp empty)
    refine .read given (by simp) (fun id c k found follows does => ?_)
      fun id c k found follows _ does => by simp [ScopeCall.revokes] at does
    obtain rfl : customerId = k := by simpa [ScopeCall.revises] using does
    exact .inr (.inr ⟨gone, rfl⟩)
  · rename_i scope
    refine .read given ?_ (fun id c k found follows does => .inr (.inl ⟨_, rfl, does⟩))
      fun id c k found follows _ does => by simp [ScopeCall.revokes] at does
    intro r goes
    cases goes
    simpa [ScopeCall.Carries] using scope

theorem rescopingRead_step (some_facility : scope.allowedFacilityIds ≠ []) (covered : db.covers customerId scope)
    (input : ScopeInput) :
    ScopeTakes db (.rescopingRead customerId scope) input := by
  unfold ScopeTakes nextScope
  dsimp only
  refine .read given ?_ (fun id c k found follows does => ?_)
    fun id c k found follows _ does => by simp [ScopeCall.revokes] at does
  · intro r goes
    cases goes
    refine ⟨some_facility, fun q mem => ?_⟩
    obtain ⟨⟨id, c⟩, row, rfl⟩ := List.mem_map.mp mem
    simp only [List.mem_filter, Bool.and_eq_true, decide_eq_true_eq] at row
    rw [ScopeDb.owner, Table.find_eq_some.mpr row.1, Option.map_some, row.2.1.1]
  · obtain rfl : customerId = k := by simpa [ScopeCall.revises] using does
    by_cases needs : c.needsRescope scope
    · refine .inr (.inl ⟨_, rfl, ?_⟩)
      simp only [ScopeCall.revises, decide_true, Bool.true_and, decide_eq_true_eq, List.map_map,
        List.mem_map, List.mem_filter, Bool.and_eq_true]
      exact ⟨(id, c), ⟨Table.find_eq_some.mp found,
        ⟨follows_customer follows, follows_alive follows⟩, needs⟩, rfl⟩
    · refine .inl (covers_of_needless covered follows ?_ (by simpa using needs))
      have granted := given.granted id c found (by rw [follows_customer follows]; rfl)
      rwa [follows_grant follows] at granted

theorem rescopingEach_step {rows : List (CredentialId × Bool)} (some_facility : scope.allowedFacilityIds ≠ [])
    (owners : ∀ q ∈ rows, db.owner q.1 = some (some customerId)) (covered : db.covers customerId scope)
    (input : ScopeInput) :
    ScopeTakes db (.rescopingEach customerId scope rows) input := by
  cases rows with
  | nil =>
    refine .quiet given (by simp [nextScope]) fun k id => ?_
    simp [ScopeCall.revises]
  | cons q rows =>
    obtain ⟨id, ofUnits⟩ := q
    unfold ScopeTakes nextScope
    dsimp only
    have own : db.owner id = some (some customerId) := owners _ List.mem_cons_self
    refine .credential given ?_ (fun _ => rfl) (fun _ _ _ => some_facility) ?_ ?_
    · intro r goes
      cases goes
      exact ⟨some_facility, fun q mem => owners q (List.mem_cons_of_mem _ mem)⟩
    · intro c k found follows
      have customer := follows_customer follows
      change c.customerId = some k at customer
      rw [ScopeDb.owner, found, Option.map_some, customer] at own
      cases own
      exact ⟨covers_facilities covered ofUnits, some_facility⟩
    · intro j k other
      refine ⟨fun does => ⟨_, rfl, ?_⟩, fun does => by simp [ScopeCall.revokes] at does⟩
      simpa [ScopeCall.revises, other] using does

theorem countingLive_step
    (inside : db.liveContracts customerId none = [] ∨
      ∀ c ∈ db.credentials.values, c.follows customerId → db.covers customerId c.scope) (input : ScopeInput) :
    ScopeTakes db (.countingLive customerId) input := by
  unfold ScopeTakes nextScope
  dsimp only
  split
  · exact .read given (by simp [ScopeCall.Carries])
      (fun id c k found follows does => .inr (.inl ⟨_, rfl, does⟩))
      fun id c k found follows _ does => ⟨_, rfl, does⟩
  · rename_i live
    have live : db.liveContracts customerId none ≠ [] := by simpa using live
    refine .read given (by simp) (fun id c k found follows does => ?_)
      fun id c k found follows empty does => ?_
    · obtain rfl : customerId = k := by simpa [ScopeCall.revises, ScopeCall.revokes] using does
      exact .inl (inside.resolve_left live c (Table.mem_values.mpr ⟨id, found⟩) follows)
    · obtain rfl : customerId = k := by simpa [ScopeCall.revokes] using does
      exact absurd empty live

theorem collecting_step (customerId : CustomerId) (input : ScopeInput) :
    ScopeTakes db (.collecting customerId) input := by
  unfold ScopeTakes nextScope
  dsimp only
  have reaches : ∀ id c k, db.credentials.find id = some c → c.follows k → customerId = k →
      (ScopeCall.revoking customerId ((db.credentials.rows.filter fun q =>
        q.2.customerId = some customerId && q.2.status.alive).map Prod.fst)).revokes k id := by
    rintro id c k found follows rfl
    simp only [ScopeCall.revokes, decide_true, Bool.true_and, decide_eq_true_eq, List.mem_map,
      List.mem_filter, Bool.and_eq_true]
    exact ⟨(id, c), ⟨Table.find_eq_some.mp found, follows_customer follows, follows_alive follows⟩,
      rfl⟩
  refine .read given (by simp [ScopeCall.Carries]) (fun id c k found follows does => ?_)
    fun id c k found follows _ does => ⟨_, rfl, reaches id c k found follows ?_⟩
  · refine .inr (.inl ⟨_, rfl, revises_of_revokes (reaches id c k found follows ?_)⟩)
    simpa [ScopeCall.revises, ScopeCall.revokes] using does
  · simpa [ScopeCall.revokes] using does

theorem revoking_step (customerId : CustomerId) (ids : List CredentialId) (input : ScopeInput) :
    ScopeTakes db (.revoking customerId ids) input := by
  cases ids with
  | nil =>
    refine .quiet given (by simp [nextScope]) fun k id => ?_
    simp [ScopeCall.revises, ScopeCall.revokes]
  | cons id ids =>
    unfold ScopeTakes nextScope
    dsimp only
    refine .credential given (by simp [ScopeCall.Carries]) (fun _ => rfl)
      (fun c found customer => given.granted id c found customer) ?_ ?_
    · intro c k found follows
      have alive := follows_alive follows
      simp [AccessCredentialStatus.alive] at alive
    · intro j k other
      refine ⟨fun does => ⟨_, rfl, ?_⟩, fun does => ⟨_, rfl, ?_⟩⟩
      · simpa [ScopeCall.revises, ScopeCall.revokes, other] using does
      · simpa [ScopeCall.revokes, other] using does

theorem writing_step {customerId : Option CustomerId}
    (carried : (ScopeCall.writing id customerId scope grant).Carries db)
    (covered : ∀ k, customerId = some k → grant = .contracts → db.covers k scope) (input : ScopeInput) :
    ScopeTakes db (.writing id customerId scope grant) input := by
  unfold ScopeTakes nextScope
  dsimp only
  have owner : db.owner id = some customerId := by
    cases customerId with
    | none => exact carried
    | some k => exact carried.1
  have customer : ∀ c, db.credentials.find id = some c → c.customerId = customerId := by
    intro c found
    rwa [ScopeDb.owner, found, Option.map_some, Option.some.injEq] at owner
  refine .credential given (by simp) (fun _ => rfl) (fun c found own => ?_)
    (fun c k found follows => ?_) fun j k _ => ⟨fun does => ?_, fun does => ?_⟩
  · rw [customer c found] at own
    obtain ⟨k, rfl⟩ := Option.isSome_iff_exists.mp own
    exact carried.2
  · have own := follows_customer follows
    change c.customerId = some k at own
    rw [customer c found] at own
    subst own
    obtain rfl : grant = .contracts := follows_grant follows
    exact ⟨covered k rfl rfl, carried.2⟩
  · simp [ScopeCall.revises, ScopeCall.revokes] at does
  · simp [ScopeCall.revokes] at does

theorem creating_step {kind : CredentialKind} (granted : db.granted scope grant)
    (covered : grant = .contracts → kind.source = some "night_pass" ∨ db.covers customerId scope) (input : ScopeInput) :
    ScopeTakes db (.creating customerId scope grant kind) input := by
  unfold ScopeTakes nextScope
  dsimp only
  split
  · exact .quiet given (by simp) fun _ _ => rfl
  · refine .push given (fun _ _ => rfl) (fun _ => granted) fun k follows => ?_
    have own := follows_customer follows
    obtain rfl : customerId = k := Option.some.inj own
    obtain rfl : grant = .contracts := follows_grant follows
    exact ⟨(covered rfl).resolve_left (follows_source follows), granted⟩

theorem finding_step (staff : FacilityScope) (id : CredentialId) (allFacilities : Bool)
    (facilityIds : Option (List FacilityId)) (unitIds : Option (List UnitId)) (input : ScopeInput) :
    ScopeTakes db (.finding staff id allFacilities facilityIds unitIds) input := by
  unfold ScopeTakes nextScope
  dsimp only
  cases found : db.credentials.find id with
  | none => exact .quiet given (by simp) fun _ _ => rfl
  | some c =>
    have owner : db.owner id = some c.customerId := by rw [ScopeDb.owner, found, Option.map_some]
    cases customer : c.customerId with
    | some customerId =>
      simp only [customer]
      split
      · refine .quiet given (fun r goes => ?_) fun _ _ => rfl
        cases goes
        exact owner.trans (by rw [customer])
      · exact .quiet given (by simp) fun _ _ => rfl
    | none =>
      simp only [customer]
      split
      · refine .quiet given (fun r goes => ?_) fun _ _ => rfl
        cases goes
        exact owner.trans (by rw [customer])
      · exact .quiet given (by simp) fun _ _ => rfl

theorem choosing_step (customerId : CustomerId) (facilityId : Option FacilityId)
    (input : ScopeInput) :
    ScopeTakes db (.choosing customerId facilityId) input := by
  unfold ScopeTakes nextScope
  dsimp only
  split
  · exact .quiet given (by simp) fun _ _ => rfl
  split
  · split
    · exact .quiet given (by simp [ScopeCall.Carries]) fun _ _ => rfl
    · exact .quiet given (by simp) fun _ _ => rfl
  · split
    · exact .quiet given (by simp) fun _ _ => rfl
    · exact .quiet given (by simp [ScopeCall.Carries]) fun _ _ => rfl

end

theorem scope_step {input : ScopeInput} (given : db.Given) (carried : call.Carries db)
    (inOrder : scopeInOrder db call input) : ScopeTakes db call input := by
  cases call with
  | signing id deferAccess => exact signing_step given id deferAccess input
  | opening id => exact opening_step given id input
  | moving id unitId => exact moving_step given id unitId input
  | ending id status => exact ending_step given id status input
  | rescoping customerId => exact rescoping_step given customerId input
  | rescopingRead customerId scope => exact rescopingRead_step given carried inOrder input
  | rescopingEach customerId scope rows =>
    exact rescopingEach_step given carried.1 carried.2 inOrder input
  | countingLive customerId =>
    refine countingLive_step given ?_ input
    simp only [scopeInOrder, Bool.or_eq_true, List.isEmpty_iff, List.all_eq_true] at inOrder
    refine inOrder.imp_right fun inside c mem follows => ?_
    simpa [follows] using inside c mem
  | collecting customerId => exact collecting_step given customerId input
  | revoking customerId ids => exact revoking_step given customerId ids input
  | finding staff id allFacilities facilityIds unitIds =>
    exact finding_step given staff id allFacilities facilityIds unitIds input
  | creating customerId scope grant kind =>
    refine creating_step given carried (fun follows => ?_) input
    subst follows
    simpa [scopeInOrder] using inOrder
  | writing id customerId scope grant =>
    refine writing_step given carried (fun k own follows => ?_) input
    subst own follows
    exact inOrder
  | resolving staff customerId allFacilities asked kind =>
    unfold ScopeTakes nextScope
    dsimp only
    cases resolved : resolveManualScope db staff customerId allFacilities asked with
    | none => exact .quiet given (by simp) fun _ _ => rfl
    | some p =>
      refine .quiet given (fun r goes => ?_) fun _ _ => rfl
      cases goes
      exact resolving_granted inOrder resolved
  | resolvingUpdate staff id customerId allFacilities asked =>
    unfold ScopeTakes nextScope
    dsimp only
    cases resolved : resolveManualScope db staff customerId allFacilities asked with
    | none => exact .quiet given (by simp) fun _ _ => rfl
    | some p =>
      refine .quiet given (fun r goes => ?_) fun _ _ => rfl
      cases goes
      exact ⟨carried, resolving_granted inOrder resolved⟩
  | resolvingFacial staff customerId facilityIds unitIds =>
    simp only [scopeInOrder] at inOrder
    unfold ScopeTakes nextScope
    dsimp only
    cases resolved : facialScope db staff customerId facilityIds unitIds with
    | mk scope grant =>
      refine .quiet given (fun r goes => ?_) fun _ _ => rfl
      cases goes
      simp only [resolved, Bool.and_eq_true, Bool.or_eq_true, decide_eq_true_eq,
        List.all_eq_true] at inOrder
      exact granted_facial resolved (by simpa using inOrder.1) inOrder.2
  | issuing customerId kind =>
    unfold ScopeTakes nextScope
    dsimp only
    split
    · exact .quiet given (by simp) fun _ _ => rfl
    · rename_i own
      refine .quiet given (fun r goes => ?_) fun _ _ => rfl
      cases goes
      simpa [ScopeCall.Carries, ScopeDb.granted] using own
  | requiring customerId facilityId kind =>
    unfold ScopeTakes nextScope
    dsimp only
    split
    · exact .quiet given (by simp) fun _ _ => rfl
    · rename_i own
      refine .quiet given (fun r goes => ?_) fun _ _ => rfl
      cases goes
      simp only [Bool.or_eq_true, not_or] at own
      simpa [ScopeCall.Carries, ScopeDb.granted] using own.1
  | choosing customerId facilityId => exact choosing_step given customerId facilityId input
  | opened customerId =>
    refine .quiet given (fun r goes => ?_) fun _ _ => rfl
    cases goes
    split <;> trivial
  | _ =>
    unfold ScopeTakes nextScope
    dsimp only
    split
    · exact .quiet given (by simp [ScopeCall.Carries]) fun _ _ => rfl
    · exact .quiet given (by simp) fun _ _ => rfl

theorem scope_made {db' : ScopeDb} {input : ScopeInput} {rest : Option ScopeCall} (given : db.Given)
    (carried : call.Carries db) (inOrder : scopeInOrder db call input)
    (made : scopeSystem.next db call input = some (db', rest)) : ScopeStep db call db' rest := by
  have result : nextScope db call input = (db', rest) := Option.some.inj made
  have step := scope_step given carried inOrder
  rwa [ScopeTakes, result] at step

end StorageOS
