import StorageOS.Access.Credentials
import StorageOS.Billing.Requests

/-! The doors that a credential opens: its scope as it is created by the staff, by the customer and by
the events of contracts, and rewritten as the contracts of its customer change. -/

namespace StorageOS

open Transition Processes

structure ScopeContract where
  customerId : CustomerId
  unitId : UnitId
  status : ContractStatus
  preOpening : Bool
  preOpeningStartedAt : Option Instant
  deletedAt : Option Instant

/-- Active or ending, and not a reservation whose facility has not opened. -/
def ScopeContract.live (c : ScopeContract) : Bool :=
  (c.status = .active || c.status = .ending) && !(c.preOpening && c.preOpeningStartedAt.isNone) &&
    c.deletedAt.isNone

structure AccessScope where
  allowedFacilityIds : List FacilityId
  allowedUnitIds : List UnitId
  deriving DecidableEq

/-- The facilities that a member of the staff works in, where these are not all. -/
abbrev FacilityScope := Option (List FacilityId)

/-- Where the scope of a credential comes from: unrestricted staff asked for all facilities, staff
chose the facilities and units, or the contracts of the customer. -/
inductive Grant
  | everything
  | chosen (staff : FacilityScope) (asked : AccessScope)
  | contracts
  deriving DecidableEq

structure ScopedCredential extends AccessCredential where
  /-- `metadata.source`. -/
  source : Option String
  grant : Grant

def ScopedCredential.scope (c : ScopedCredential) : AccessScope :=
  ⟨c.allowedFacilityIds, c.allowedUnitIds⟩

def AccessCredentialStatus.alive (s : AccessCredentialStatus) : Bool :=
  s = .active || s = .suspended || s = .pending

/-- The units with their facilities, the contracts on them, and the credentials. -/
structure ScopeDb where
  facilities : List FacilityId
  units : Table UnitId FacilityId
  contracts : Table ContractId ScopeContract
  credentials : Table CredentialId ScopedCredential

def ScopeDb.liveContracts (db : ScopeDb) (customerId : CustomerId)
    (facilityId : Option FacilityId) : List ScopeContract :=
  db.contracts.values.filter fun c => c.customerId = customerId && c.live &&
    facilityId.all fun id => db.units.find c.unitId = some id

def ScopeDb.customerScope (db : ScopeDb) (customerId : CustomerId)
    (facilityId : Option FacilityId) : AccessScope :=
  ⟨((db.liveContracts customerId facilityId).filterMap fun c => db.units.find c.unitId).eraseDups,
    ((db.liveContracts customerId facilityId).map ScopeContract.unitId).eraseDups⟩

def ScopeDb.facilitiesOf (db : ScopeDb) (unitIds : List UnitId) : List FacilityId :=
  (db.units.rows.filter fun u => u.1 ∈ unitIds).map Prod.snd

/-- The scope of a credential made by the staff, unless they may not give it. -/
def resolveManualScope (db : ScopeDb) (staff : FacilityScope) (customerId : CustomerId)
    (allFacilities : Bool) (asked : AccessScope) : Option (AccessScope × Grant) :=
  if allFacilities then
    if staff.isSome then none else some (⟨[], []⟩, .everything)
  else if !asked.allowedFacilityIds.isEmpty || !asked.allowedUnitIds.isEmpty then
    if (asked.allowedFacilityIds.all fun id => isFacilityAllowed staff id) &&
        (db.facilitiesOf asked.allowedUnitIds).all fun id => isFacilityAllowed staff id then
      some (⟨(asked.allowedFacilityIds ++ db.facilitiesOf asked.allowedUnitIds).eraseDups,
        asked.allowedUnitIds⟩, .chosen staff asked)
    else none
  else
    let own := db.customerScope customerId none
    if own.allowedFacilityIds.isEmpty then none else some (own, .contracts)

/-- The scope of the credential of a face: what the staff gives, or the contracts of the customer. -/
def facialScope (db : ScopeDb) (staff : FacilityScope) (customerId : CustomerId)
    (facilityIds : Option (List FacilityId)) (unitIds : Option (List UnitId)) :
    AccessScope × Grant :=
  if facilityIds.isSome || unitIds.isSome then
    let asked : AccessScope := ⟨facilityIds.getD [], unitIds.getD []⟩
    (asked, .chosen staff asked)
  else (db.customerScope customerId none, .contracts)

/-- Staff of some facilities only deal with the customers that have had a contract in them. -/
def ScopeDb.assertCustomerInScope (db : ScopeDb) (customerId : CustomerId) (staff : FacilityScope) :
    Bool :=
  staff.all fun l => db.contracts.values.any fun c =>
    c.customerId = customerId && (db.units.find c.unitId).any fun id => id ∈ l

def ScopeDb.hasOwnCredential (db : ScopeDb) (customerId : CustomerId) : Bool :=
  db.credentials.values.any fun c =>
    c.customerId = some customerId && c.status.alive && c.maxUses.isNone

/-- The credential has another scope than the contracts give, and follows them. -/
def ScopedCredential.needsRescope (c : ScopedCredential) (scope : AccessScope) : Bool :=
  c.source ≠ some "night_pass" &&
    !(c.allowedFacilityIds.isEmpty && c.allowedUnitIds.isEmpty) &&
      !(c.allowedFacilityIds.isPerm scope.allowedFacilityIds &&
        c.allowedUnitIds.isPerm scope.allowedUnitIds)

/-! ### Requests -/

structure CredentialKind where
  source : Option String
  maxUses : Option ℤ
  deriving DecidableEq

inductive ScopeRequest
  | signContract (id : ContractId) (deferAccess : Bool)
  | startPreOpening (id : ContractId)
  | changeUnit (id : ContractId) (unitId : UnitId)
  | endContract (id : ContractId) (status : ContractStatus)
  | invoicePaid (customerId : CustomerId)
  | revokeGone (customerId : CustomerId)
  | create (staff : FacilityScope) (customerId : CustomerId) (allFacilities : Bool)
      (asked : AccessScope) (kind : CredentialKind)
  | createFacial (staff : FacilityScope) (customerId : CustomerId)
      (facilityIds : Option (List FacilityId)) (unitIds : Option (List UnitId))
  | createVisitorPin (staff : FacilityScope) (customerId : CustomerId) (facilityId : FacilityId)
  | update (staff : FacilityScope) (id : CredentialId) (allFacilities : Option Bool)
      (facilityIds : Option (List FacilityId)) (unitIds : Option (List UnitId))
  | createExtraForCustomer (customerId : CustomerId)
  | createVisitorPassForCustomer (customerId : CustomerId) (facilityId : Option FacilityId)
  | createNightPassForCustomer (customerId : CustomerId) (facilityId : Option FacilityId)

inductive ScopeCall
  | signing (id : ContractId) (deferAccess : Bool)
  | opening (id : ContractId)
  | opened (customerId : CustomerId)
  | moving (id : ContractId) (unitId : UnitId)
  | ending (id : ContractId) (status : ContractStatus)
  | paid (customerId : CustomerId)
  | issuing (customerId : CustomerId) (kind : CredentialKind)
  | rescoping (customerId : CustomerId)
  | rescopingRead (customerId : CustomerId) (scope : AccessScope)
  | rescopingEach (customerId : CustomerId) (scope : AccessScope) (rows : List (CredentialId × Bool))
  | countingLive (customerId : CustomerId)
  | sweeping (customerId : CustomerId)
  | collecting (customerId : CustomerId)
  | revoking (customerId : CustomerId) (ids : List CredentialId)
  | asserting (staff : FacilityScope) (customerId : CustomerId) (allFacilities : Bool)
      (asked : AccessScope) (kind : CredentialKind)
  | resolving (staff : FacilityScope) (customerId : CustomerId) (allFacilities : Bool)
      (asked : AccessScope) (kind : CredentialKind)
  | assertingFacial (staff : FacilityScope) (customerId : CustomerId)
      (facilityIds : Option (List FacilityId)) (unitIds : Option (List UnitId))
  | resolvingFacial (staff : FacilityScope) (customerId : CustomerId)
      (facilityIds : Option (List FacilityId)) (unitIds : Option (List UnitId))
  | visiting (staff : FacilityScope) (customerId : CustomerId) (facilityId : FacilityId)
  | finding (staff : FacilityScope) (id : CredentialId) (allFacilities : Bool)
      (facilityIds : Option (List FacilityId)) (unitIds : Option (List UnitId))
  | resolvingUpdate (staff : FacilityScope) (id : CredentialId) (customerId : CustomerId)
      (allFacilities : Bool) (asked : AccessScope)
  | choosing (customerId : CustomerId) (facilityId : Option FacilityId)
  | requiring (customerId : CustomerId) (facilityId : Option FacilityId) (kind : CredentialKind)
  | creating (customerId : CustomerId) (scope : AccessScope) (grant : Grant) (kind : CredentialKind)
  | writing (id : CredentialId) (customerId : Option CustomerId) (scope : AccessScope) (grant : Grant)

/-- The date, whether what the access waits for is paid, the dates of a new credential, and what else
refuses it. -/
structure ScopeInput where
  now : Instant
  settled : Bool
  refused : Bool
  validFrom : Option Instant
  expiresAt : Option Instant

def visitorKind : CredentialKind := ⟨some "visitor", some 1⟩

def enterScope (_ : ScopeDb) : ScopeRequest → Option ScopeCall
  | .signContract id deferAccess => some (.signing id deferAccess)
  | .startPreOpening id => some (.opening id)
  | .changeUnit id unitId => some (.moving id unitId)
  | .endContract id status => some (.ending id status)
  | .invoicePaid customerId => some (.paid customerId)
  | .revokeGone customerId => some (.sweeping customerId)
  | .create staff customerId allFacilities asked kind =>
    some (.asserting staff customerId allFacilities asked kind)
  | .createFacial staff customerId facilityIds unitIds =>
    some (.assertingFacial staff customerId facilityIds unitIds)
  | .createVisitorPin staff customerId facilityId => some (.visiting staff customerId facilityId)
  | .update staff id allFacilities facilityIds unitIds =>
    if allFacilities.isSome || facilityIds.isSome || unitIds.isSome then
      some (.finding staff id (allFacilities.getD false) facilityIds unitIds)
    else none
  | .createExtraForCustomer customerId =>
    some (.requiring customerId none ⟨some "portal_self_service", none⟩)
  | .createVisitorPassForCustomer customerId facilityId => some (.choosing customerId facilityId)
  | .createNightPassForCustomer customerId facilityId =>
    some (.requiring customerId facilityId ⟨some "night_pass", some 1⟩)

def newCredential (customerId : CustomerId) (scope : AccessScope) (grant : Grant)
    (kind : CredentialKind) (input : ScopeInput) : ScopedCredential where
  customerId := some customerId
  status := .active
  allowedFacilityIds := scope.allowedFacilityIds
  allowedUnitIds := scope.allowedUnitIds
  extra := kind.source = some "portal_self_service"
  maxUses := kind.maxUses
  usesCount := 0
  suspendReason := none
  validFrom := input.validFrom
  expiresAt := input.expiresAt
  suspendedAt := none
  revokedAt := none
  lastUsedAt := none
  source := kind.source
  grant

def ScopedCredential.rescope (scope : AccessScope) (grant : Grant) (c : ScopedCredential) :
    ScopedCredential :=
  { c with
    allowedFacilityIds := scope.allowedFacilityIds
    allowedUnitIds := scope.allowedUnitIds
    grant }

def ScopeDb.updateContract (db : ScopeDb) (id : ContractId) (f : ScopeContract → ScopeContract) :
    ScopeDb :=
  { db with contracts := db.contracts.modify id f }

def ScopeDb.updateCredential (db : ScopeDb) (id : CredentialId)
    (f : ScopedCredential → ScopedCredential) : ScopeDb :=
  { db with credentials := db.credentials.modify id f }

def nextScope (db : ScopeDb) (call : ScopeCall) (input : ScopeInput) : ScopeDb × Option ScopeCall :=
  match call with
  | .signing id deferAccess =>
    match db.contracts.find id with
    | none => (db, none)
    | some c =>
      if c.status = .draft then
        (db.updateContract id fun c => { c with status := .active },
          if deferAccess then none else some (.issuing c.customerId ⟨some "contract_signed", none⟩))
      else (db, none)
  | .opening id =>
    match db.contracts.find id with
    | none => (db, none)
    | some c =>
      if (c.status = .active || c.status = .ending) && c.preOpening &&
          c.preOpeningStartedAt.isNone then
        (db.updateContract id fun c => { c with preOpeningStartedAt := some input.now },
          if input.settled then some (.opened c.customerId) else none)
      else (db, none)
  | .opened customerId =>
    (db, some (if db.hasOwnCredential customerId then .rescoping customerId
      else .issuing customerId ⟨some "contract_signed", none⟩))
  | .moving id unitId =>
    match db.contracts.find id with
    | none => (db, none)
    | some c =>
      if (c.status = .active || c.status = .ending) && (db.units.find unitId).isSome then
        (db.updateContract id fun c => { c with unitId }, some (.rescoping c.customerId))
      else (db, none)
  | .ending id status =>
    match db.contracts.find id with
    | none => (db, none)
    | some c =>
      if (c.status = .active || c.status = .ending) &&
          (status = .ended || status = .cancelled) then
        (db.updateContract id fun c => { c with status }, some (.countingLive c.customerId))
      else (db, none)
  | .paid customerId =>
    if input.settled && !db.hasOwnCredential customerId then
      (db, some (.issuing customerId ⟨some "invoice_paid", none⟩))
    else (db, none)
  | .issuing customerId kind =>
    let scope := db.customerScope customerId none
    if scope.allowedFacilityIds.isEmpty then (db, none)
    else (db, some (.creating customerId scope .contracts kind))
  | .rescoping customerId =>
    let scope := db.customerScope customerId none
    if scope.allowedFacilityIds.isEmpty then (db, none)
    else (db, some (.rescopingRead customerId scope))
  | .rescopingRead customerId scope =>
    (db, some (.rescopingEach customerId scope
      ((db.credentials.rows.filter fun q => q.2.customerId = some customerId && q.2.status.alive &&
        q.2.needsRescope scope).map fun q => (q.1, !q.2.allowedUnitIds.isEmpty))))
  | .rescopingEach _ _ [] => (db, none)
  | .rescopingEach customerId scope ((id, ofUnits) :: rows) =>
    (db.updateCredential id (ScopedCredential.rescope
        ⟨scope.allowedFacilityIds, if ofUnits then scope.allowedUnitIds else []⟩ .contracts),
      some (.rescopingEach customerId scope rows))
  | .countingLive customerId =>
    if (db.liveContracts customerId none).isEmpty then (db, some (.collecting customerId))
    else (db, none)
  | .sweeping customerId =>
    if (db.contracts.values.any fun c => c.customerId = customerId &&
          (c.status = .ended || c.status = .cancelled)) &&
        !db.contracts.values.any fun c => c.customerId = customerId && c.deletedAt.isNone &&
          (c.status = .draft || c.status = .active || c.status = .ending) then
      (db, some (.collecting customerId))
    else (db, none)
  | .collecting customerId =>
    (db, some (.revoking customerId ((db.credentials.rows.filter fun q =>
      q.2.customerId = some customerId && q.2.status.alive).map Prod.fst)))
  | .revoking _ [] => (db, none)
  | .revoking customerId (id :: ids) =>
    (db.updateCredential id fun c => { c with status := .revoked, revokedAt := some input.now },
      some (.revoking customerId ids))
  | .asserting staff customerId allFacilities asked kind =>
    if db.assertCustomerInScope customerId staff then
      (db, some (.resolving staff customerId allFacilities asked kind))
    else (db, none)
  | .resolving staff customerId allFacilities asked kind =>
    match resolveManualScope db staff customerId allFacilities asked with
    | none => (db, none)
    | some (scope, grant) => (db, some (.creating customerId scope grant kind))
  | .assertingFacial staff customerId facilityIds unitIds =>
    if db.assertCustomerInScope customerId staff then
      (db, some (.resolvingFacial staff customerId facilityIds unitIds))
    else (db, none)
  | .resolvingFacial staff customerId facilityIds unitIds =>
    let (scope, grant) := facialScope db staff customerId facilityIds unitIds
    (db, some (.creating customerId scope grant ⟨none, none⟩))
  | .visiting staff customerId facilityId =>
    if facilityId ∈ db.facilities then
      let scope := db.customerScope customerId (some facilityId)
      let facilityIds :=
        if scope.allowedFacilityIds.isEmpty then [facilityId] else scope.allowedFacilityIds
      (db, some (.asserting staff customerId false ⟨facilityIds, scope.allowedUnitIds⟩ visitorKind))
    else (db, none)
  | .finding staff id allFacilities facilityIds unitIds =>
    match db.credentials.find id with
    | none => (db, none)
    | some c =>
      match c.customerId with
      | some customerId =>
        if db.assertCustomerInScope customerId staff then
          (db, some (.resolvingUpdate staff id customerId allFacilities
            ⟨facilityIds.getD [], unitIds.getD []⟩))
        else (db, none)
      | none =>
        if c.allowedFacilityIds.all fun id => isFacilityAllowed staff id then
          (db, some (.writing id none ⟨if (facilityIds.getD []).isEmpty then c.allowedFacilityIds
            else facilityIds.getD [], unitIds.getD c.allowedUnitIds⟩ c.grant))
        else (db, none)
  | .resolvingUpdate staff id customerId allFacilities asked =>
    match resolveManualScope db staff customerId allFacilities asked with
    | none => (db, none)
    | some (scope, grant) => (db, some (.writing id (some customerId) scope grant))
  | .choosing customerId facilityId =>
    let all := (db.customerScope customerId none).allowedFacilityIds
    if all.isEmpty || input.refused then (db, none)
    else
      match facilityId with
      | some id =>
        if id ∈ all then (db, some (.requiring customerId (some id) ⟨some "portal_visitor", some 1⟩))
        else (db, none)
      | none =>
        if all.length > 1 then (db, none)
        else (db, some (.requiring customerId all.head? ⟨some "portal_visitor", some 1⟩))
  | .requiring customerId facilityId kind =>
    let scope := db.customerScope customerId facilityId
    if scope.allowedFacilityIds.isEmpty || input.refused then (db, none)
    else (db, some (.creating customerId scope .contracts kind))
  | .creating customerId scope grant kind =>
    if input.refused then (db, none)
    else
      ({ db with
        credentials := db.credentials.push (newCredential customerId scope grant kind input) }, none)
  | .writing id _ scope grant => (db.updateCredential id (ScopedCredential.rescope scope grant), none)

def scopeSystem : Processes.System ScopeDb ScopeCall ScopeRequest ScopeInput where
  enter := enterScope
  next db call input := some (nextScope db call input)

/-! What the live contracts of a customer cover, and what is left of it when a contract changes; the
doors that the scope of a credential opens. -/

/-- The customer has a live contract in the facility of the door and, at the door of a unit, a live
contract of the unit. -/
def ScopeDb.rents (db : ScopeDb) (customerId : CustomerId) (device : AccessDevice) : Prop :=
  (∃ c ∈ db.contracts.values, c.customerId = customerId ∧ c.live ∧
    db.units.find c.unitId = some device.facilityId) ∧
  ∀ unitId ∈ device.unitId, ∃ c ∈ db.contracts.values,
    c.customerId = customerId ∧ c.live ∧ c.unitId = unitId

instance (db : ScopeDb) (customerId : CustomerId) (device : AccessDevice) :
    Decidable (db.rents customerId device) :=
  inferInstanceAs (Decidable ((∃ c ∈ db.contracts.values, c.customerId = customerId ∧ c.live ∧
    db.units.find c.unitId = some device.facilityId) ∧
    ∀ unitId ∈ device.unitId, ∃ c ∈ db.contracts.values,
      c.customerId = customerId ∧ c.live ∧ c.unitId = unitId))

/-- The staff may open the facility of the door, and asked for it or for a unit in it, and at the door
of a unit for the unit. -/
def ScopeDb.chose (db : ScopeDb) (staff : FacilityScope) (asked : AccessScope)
    (device : AccessDevice) : Prop :=
  isFacilityAllowed staff device.facilityId ∧
  (device.facilityId ∈ asked.allowedFacilityIds ∨
    ∃ unitId ∈ asked.allowedUnitIds, db.units.find unitId = some device.facilityId) ∧
  ∀ unitId ∈ device.unitId, unitId ∈ asked.allowedUnitIds

def ScopeDb.covers (db : ScopeDb) (customerId : CustomerId) (scope : AccessScope) : Bool :=
  (scope.allowedFacilityIds.all fun id => id ∈ (db.customerScope customerId none).allowedFacilityIds) &&
    scope.allowedUnitIds.all fun id => id ∈ (db.customerScope customerId none).allowedUnitIds

def ScopeDb.placed (db : ScopeDb) : Prop :=
  ∀ c ∈ db.contracts.values, (db.units.find c.unitId).isSome

section

variable {db : ScopeDb} {customerId : CustomerId}

theorem mem_liveContracts {c : ScopeContract} : c ∈ db.liveContracts customerId none ↔
    c ∈ db.contracts.values ∧ c.customerId = customerId ∧ c.live := by
  simp [ScopeDb.liveContracts]

theorem mem_scopeFacilities {id : FacilityId} :
    id ∈ (db.customerScope customerId none).allowedFacilityIds ↔
      ∃ c ∈ db.contracts.values, c.customerId = customerId ∧ c.live ∧
        db.units.find c.unitId = some id := by
  simp only [ScopeDb.customerScope, List.mem_eraseDups, List.mem_filterMap, mem_liveContracts]
  grind

theorem mem_scopeUnits {id : UnitId} : id ∈ (db.customerScope customerId none).allowedUnitIds ↔
    ∃ c ∈ db.contracts.values, c.customerId = customerId ∧ c.live ∧ c.unitId = id := by
  simp only [ScopeDb.customerScope, List.mem_eraseDups, List.mem_map, mem_liveContracts]
  grind

variable {scope : AccessScope}

theorem covers_iff : db.covers customerId scope ↔
    (∀ id ∈ scope.allowedFacilityIds,
      id ∈ (db.customerScope customerId none).allowedFacilityIds) ∧
    ∀ id ∈ scope.allowedUnitIds, id ∈ (db.customerScope customerId none).allowedUnitIds := by
  simp [ScopeDb.covers]

theorem noLive_of_noFacility (placed : db.placed)
    (empty : (db.customerScope customerId none).allowedFacilityIds = []) :
    db.liveContracts customerId none = [] := by
  rw [List.eq_nil_iff_forall_not_mem] at empty ⊢
  intro c mem
  obtain ⟨stored, own, live⟩ := mem_liveContracts.mp mem
  obtain ⟨facilityId, found⟩ := Option.isSome_iff_exists.mp (placed c stored)
  exact empty facilityId (mem_scopeFacilities.mpr ⟨c, stored, own, live, found⟩)

variable (covered : db.covers customerId scope)
include covered

/-- A scope of some facility within the live contracts is of a customer who has some. -/
theorem live_of_covers (some_facility : scope.allowedFacilityIds ≠ []) : db.liveContracts customerId none ≠ [] := by
  obtain ⟨id, mem⟩ := List.exists_mem_of_ne_nil _ some_facility
  obtain ⟨c, stored, own, live, -⟩ := mem_scopeFacilities.mp ((covers_iff.mp covered).1 id mem)
  exact List.ne_nil_of_mem (mem_liveContracts.mpr ⟨stored, own, live⟩)

theorem covers_perm {other : AccessScope} (facilities : other.allowedFacilityIds.Perm scope.allowedFacilityIds)
    (units : other.allowedUnitIds.Perm scope.allowedUnitIds) : db.covers customerId other := by
  obtain ⟨inFacilities, inUnits⟩ := covers_iff.mp covered
  exact covers_iff.mpr ⟨fun id mem => inFacilities id (facilities.mem_iff.mp mem),
    fun id mem => inUnits id (units.mem_iff.mp mem)⟩

theorem covers_facilities (ofUnits : Bool) : db.covers customerId
      ⟨scope.allowedFacilityIds, if ofUnits then scope.allowedUnitIds else []⟩ := by
  obtain ⟨inFacilities, inUnits⟩ := covers_iff.mp covered
  refine covers_iff.mpr ⟨inFacilities, fun id mem => ?_⟩
  split at mem
  · exact inUnits id mem
  · cases mem

omit covered

/-! ### Contracts that change -/

variable {id : ContractId} {f : ScopeContract → ScopeContract}

theorem mem_updateContract {c : ScopeContract} (mem : c ∈ db.contracts.values)
    {p : ScopeContract → Prop} (before : p c)
    (keep : ∀ c, db.contracts.find id = some c → p c → p (f c)) :
    ∃ c' ∈ (db.updateContract id f).contracts.values, p c' := by
  obtain ⟨j, found⟩ := Table.mem_values.mp mem
  obtain ⟨c', found', holds⟩ := Table.exists_find_modify found (fun own => keep c own before) before
  exact ⟨c', Table.mem_values_of_find found', holds⟩

theorem live_updateContract (live : db.liveContracts customerId none ≠ [])
    (keep : ∀ c, db.contracts.find id = some c → c.customerId = customerId → c.live →
      (f c).customerId = customerId ∧ (f c).live) :
    (db.updateContract id f).liveContracts customerId none ≠ [] := by
  obtain ⟨c, mem⟩ := List.exists_mem_of_ne_nil _ live
  obtain ⟨stored, own⟩ := mem_liveContracts.mp mem
  obtain ⟨c', stored', own'⟩ := mem_updateContract
    (p := fun c => c.customerId = customerId ∧ c.live) stored own
    fun c found before => keep c found before.1 before.2
  exact List.ne_nil_of_mem (mem_liveContracts.mpr ⟨stored', own'⟩)

theorem covers_updateContract (covered : db.covers customerId scope)
    (keep : ∀ c, db.contracts.find id = some c → c.customerId = customerId → c.live →
      (f c).customerId = customerId ∧ (f c).live ∧ (f c).unitId = c.unitId) :
    (db.updateContract id f).covers customerId scope := by
  obtain ⟨inFacilities, inUnits⟩ := covers_iff.mp covered
  refine covers_iff.mpr ⟨fun x mem => ?_, fun x mem => ?_⟩
  · obtain ⟨c, stored, own⟩ := mem_scopeFacilities.mp (inFacilities x mem)
    refine mem_scopeFacilities.mpr (mem_updateContract stored own ?_)
    rintro c found ⟨own, live, unit⟩
    obtain ⟨own', live', unit'⟩ := keep c found own live
    exact ⟨own', live', unit' ▸ unit⟩
  · obtain ⟨c, stored, own⟩ := mem_scopeUnits.mp (inUnits x mem)
    refine mem_scopeUnits.mpr (mem_updateContract stored own ?_)
    rintro c found ⟨own, live, unit⟩
    obtain ⟨own', live', unit'⟩ := keep c found own live
    exact ⟨own', live', unit'.trans unit⟩

theorem placed_updateContract (placed : db.placed)
    (keep : ∀ c, db.contracts.find id = some c → (db.units.find (f c).unitId).isSome) :
    (db.updateContract id f).placed := by
  intro c mem
  obtain ⟨j, found⟩ := Table.mem_values.mp mem
  rcases Table.find_modify_cases found with ⟨-, before⟩ | ⟨-, c', before, rfl⟩
  · exact placed c (Table.mem_values.mpr ⟨j, before⟩)
  · exact keep c' before

end

/-! ### Doors -/

theorem opened_within {c : AccessCredential} {device : AccessDevice} {now : Instant}
    (opens : evaluateCredential c device now = none) :
    c.status = .active ∧
    (c.allowedFacilityIds = [] ∨ device.facilityId ∈ c.allowedFacilityIds) ∧
    ∀ unitId ∈ device.unitId, (c.allowedFacilityIds = [] ∧ c.allowedUnitIds = []) ∨
      unitId ∈ c.allowedUnitIds := by
  have active := evaluateCredential_active opens
  rw [evaluateCredential] at opens
  simp only [active] at opens
  split at opens
  · cases opens
  split at opens
  · cases opens
  split at opens
  · cases opens
  split at opens
  · cases opens
  rename_i facility
  split at opens
  · cases opens
  rename_i unit
  refine ⟨active, ?_, fun unitId mem => ?_⟩
  · simpa [or_iff_not_imp_left] using facility
  · rw [Option.mem_def.mp mem] at unit
    simpa [or_iff_not_imp_left] using unit

end StorageOS
