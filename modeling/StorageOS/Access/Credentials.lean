import StorageOS.Contracts.Units
import StorageOS.Lib.Processes

/-! Access credentials: their rows, the doors they open, and the requests that suspend, resume,
revoke, expire and use them, each in its separate reads and writes. -/

namespace StorageOS

abbrev CredentialId := ℕ

inductive AccessCredentialStatus
  | pending
  | active
  | suspended
  | revoked
  | expired
  deriving DecidableEq

structure AccessCredential where
  customerId : Option CustomerId
  status : AccessCredentialStatus
  allowedFacilityIds : List FacilityId
  allowedUnitIds : List UnitId
  /-- One of the accesses that a customer has besides the first. -/
  extra : Bool
  maxUses : Option ℤ
  usesCount : ℤ
  suspendReason : Option String
  validFrom : Option Instant
  expiresAt : Option Instant
  suspendedAt : Option Instant
  revokedAt : Option Instant
  lastUsedAt : Option Instant

structure AccessDevice where
  facilityId : FacilityId
  unitId : Option UnitId
  isActive : Bool

inductive AccessResult
  | allowed
  | deniedInvalidCredential
  | deniedInactiveCredential
  | deniedOutsideHours
  | deniedWrongFacility
  | deniedDunning
  | error
  deriving DecidableEq

structure AccessDenied where
  result : AccessResult
  reason : String
  deriving DecidableEq

def startsWith (s start : String) : Bool := start.toList.isPrefixOf s.toList

/-- The state, the dates, the uses and the doors of a credential, in the order of
`evaluateCredential`. -/
def evaluateCredential (credential : AccessCredential) (device : AccessDevice) (now : Instant) :
    Option AccessDenied :=
  if credential.validFrom.any fun start => start > now then
    some ⟨.deniedOutsideHours, "Este acceso aún no ha empezado"⟩
  else
    match credential.status with
    | .suspended =>
      if credential.suspendReason.any fun reason => startsWith reason "dunning:" then
        some ⟨.deniedDunning, "Acceso cortado por impago"⟩
      else some ⟨.deniedInactiveCredential, "Credencial suspendida"⟩
    | .revoked => some ⟨.deniedInactiveCredential, "Credencial revocada"⟩
    | .expired => some ⟨.deniedInactiveCredential, "Credencial caducada"⟩
    | .pending => some ⟨.deniedInactiveCredential, "Credencial pendiente de activar"⟩
    | .active =>
      if credential.expiresAt.any fun limit => limit ≤ now then
        some ⟨.deniedInvalidCredential, "Credencial caducada"⟩
      else if credential.maxUses.any fun limit => credential.usesCount ≥ limit then
        some ⟨.deniedInactiveCredential, "Pase ya utilizado"⟩
      else if !credential.allowedFacilityIds.isEmpty &&
          !(device.facilityId ∈ credential.allowedFacilityIds) then
        some ⟨.deniedWrongFacility, "No abre este local"⟩
      else if device.unitId.any fun unitId =>
          !(credential.allowedFacilityIds.isEmpty && credential.allowedUnitIds.isEmpty) &&
            !(unitId ∈ credential.allowedUnitIds) then
        some ⟨.deniedWrongFacility, "No abre este trastero"⟩
      else none

variable {credential : AccessCredential} {device : AccessDevice} {now : Instant}

theorem evaluateCredential_active (passes : evaluateCredential credential device now = none) :
    credential.status = .active := by
  rw [evaluateCredential] at passes
  split at passes
  · cases passes
  · cases status : credential.status with
    | active => rfl
    | suspended =>
      simp only [status] at passes
      split at passes <;> cases passes
    | pending | revoked | expired => simp [status] at passes

/-- The opening hours of a facility and of a credential: when they deny it. -/
abbrev AccessHours := AccessCredential → Option AccessDenied

def denies (hours : AccessHours) (credential : AccessCredential) (device : AccessDevice)
    (now : Instant) : Option AccessDenied :=
  (evaluateCredential credential device now).orElse fun _ => hours credential

theorem denies_none {hours : AccessHours} (passes : denies hours credential device now = none) :
    evaluateCredential credential device now = none := by
  rw [denies] at passes
  cases checked : evaluateCredential credential device now with
  | none => rfl
  | some denied => simp [checked] at passes

/-! ### The database -/

/-- A lock that opened, with whether the revocation of its credential was committed before the
credential was read. -/
structure Opening where
  credentialId : CredentialId
  late : Bool
  deriving DecidableEq

/-- The credentials, and what happened to them: the revocations committed, the locks that opened and
the credentials found past their date. -/
structure AccessDb where
  credentials : Table CredentialId AccessCredential
  revocations : List CredentialId
  openings : List Opening
  lapsed : List CredentialId

/-- One credential, or all those of a customer. -/
inductive CredentialTarget
  | one (id : CredentialId)
  | ofCustomer (customerId : CustomerId)

def CredentialTarget.selects (target : CredentialTarget) (q : CredentialId × AccessCredential) :
    Bool :=
  match target with
  | .one id => q.1 = id
  | .ofCustomer customerId => q.2.customerId = some customerId

def AccessDb.select (db : AccessDb) (p : CredentialId × AccessCredential → Bool) :
    List CredentialId :=
  (db.credentials.rows.filter p).map Prod.fst

def AccessDb.updateMany (db : AccessDb) (p : CredentialId × AccessCredential → Bool)
    (f : AccessCredential → AccessCredential) : AccessDb :=
  { db with credentials := db.credentials.updateMany p f }

def AccessDb.update (db : AccessDb) (id : CredentialId) (f : AccessCredential → AccessCredential) :
    AccessDb :=
  { db with credentials := db.credentials.modify id f }

def AccessDb.status (db : AccessDb) (id : CredentialId) : Option AccessCredentialStatus :=
  (db.credentials.find id).map AccessCredential.status

/-! ### Requests -/

inductive AccessRequest
  | suspend (target : CredentialTarget) (reason : String)
  | suspendExtras (customerId : CustomerId) (reason : String)
  | resume (target : CredentialTarget) (onlyIfReasonStartsWith : Option String)
  | resumeAllForCustomer (customerId : CustomerId)
  | revoke (id : CredentialId)
  | revokeAllForCustomer (customerId : CustomerId)
  | sweep (due : List CredentialId) (now : Instant)
  | verify (id : CredentialId) (device : AccessDevice) (hours : AccessHours) (now : Instant)
  | openForCustomer (customerId : CustomerId) (device : AccessDevice) (hasContract : Bool)
      (hours : AccessHours) (now : Instant)

inductive AccessCutMode
  | all
  | extras
  | none

/-- The request of `suspendForDunning`, unless the business does not cut. -/
def suspendForDunning (mode : AccessCutMode) (customerId : CustomerId) (invoiceId : InvoiceId) :
    Option AccessRequest :=
  let reason := "dunning:invoice-" ++ toString invoiceId
  match mode with
  | .none => Option.none
  | .extras => some (.suspendExtras customerId reason)
  | .all => some (.suspend (.ofCustomer customerId) reason)

def resumeForCustomer (customerId : CustomerId) : AccessRequest :=
  .resume (.ofCustomer customerId) (some "dunning:")

structure Passed where
  id : CredentialId
  row : AccessCredential
  late : Bool

inductive AccessCall
  | suspending (target : CredentialTarget) (reason : String)
  | suspendingEach (ids : List CredentialId) (reason : String)
  | resuming (target : CredentialTarget) (reasonStart : Option String) (rest : List CredentialId)
  | reactivating (ids rest : List CredentialId)
  | revoking (ids : List CredentialId)
  | revokingRead (id : CredentialId) (rest : List CredentialId)
  | expiring (due : List CredentialId)
  | lapsing (id : CredentialId)
  | claiming (p : Passed)
  | opening (p : Passed)
  | returning (p : Passed)
  | marking (p : Passed)

structure AccessInput where
  now : Instant
  dispatched : Bool

/-- A credential that passed takes a use first when its uses are limited. -/
def Passed.begin (p : Passed) : AccessCall :=
  if p.row.maxUses.isSome then .claiming p else .opening p

def AccessDb.ordered (db : AccessDb) (customerId : CustomerId) :
    List (CredentialId × AccessCredential) :=
  let creds := db.credentials.rows.filter fun (_, c) =>
    c.customerId = some customerId && c.status = .active
  creds.filter (fun (_, c) => c.maxUses.isNone) ++ creds.filter fun (_, c) => c.maxUses.isSome

def AccessCredential.due (c : AccessCredential) (now : Instant) : Bool :=
  c.status = .active && c.expiresAt.any fun limit => limit ≤ now

def enterAccess (db : AccessDb) : AccessRequest → Option AccessCall
  | .suspend target reason => some (.suspending target reason)
  | .suspendExtras customerId reason =>
    some (.suspendingEach (db.select fun (_, c) =>
      c.customerId = some customerId && c.status = .active && c.extra) reason)
  | .resume target reasonStart => some (.resuming target reasonStart [])
  | .resumeAllForCustomer customerId =>
    match db.select fun (_, c) => c.customerId = some customerId && c.status = .suspended with
    | [] => none
    | id :: rest => some (.resuming (.one id) none rest)
  | .revoke id => some (.revoking [id])
  | .revokeAllForCustomer customerId =>
    some (.revoking (db.select fun (_, c) => c.customerId = some customerId &&
      (c.status = .active || c.status = .suspended || c.status = .pending)))
  | .sweep due now =>
    if due.all fun id => (db.credentials.find id).any fun c => c.due now then some (.expiring due)
    else none
  | .verify id device hours now =>
    (db.credentials.find id).bind fun row =>
      match denies hours row device now with
      | none => some (Passed.begin ⟨id, row, id ∈ db.revocations⟩)
      | some denied =>
        if denied.result = .deniedInvalidCredential && row.due now then some (.lapsing id) else none
  | .openForCustomer customerId device hasContract hours now =>
    if !device.isActive || !hasContract then none
    else
      ((db.ordered customerId).find? fun (_, row) => (denies hours row device now).isNone).map
        fun (id, row) => Passed.begin ⟨id, row, id ∈ db.revocations⟩

def AccessCredential.suspend (reason : String) (now : Instant) (c : AccessCredential) :
    AccessCredential :=
  { c with status := .suspended, suspendedAt := some now, suspendReason := some reason }

def AccessCredential.resume (c : AccessCredential) : AccessCredential :=
  { c with status := .active, suspendedAt := none, suspendReason := none }

def AccessCredential.revoke (now : Instant) (c : AccessCredential) : AccessCredential :=
  { c with status := .revoked, revokedAt := some now }

def AccessCredential.expire (c : AccessCredential) : AccessCredential := { c with status := .expired }

/-- A use after the lock opened; the counter is the one read before. -/
def Passed.spent (p : Passed) : Bool :=
  p.row.maxUses.any fun limit => p.row.usesCount + 1 ≥ limit

def Passed.mark (p : Passed) (now : Instant) (c : AccessCredential) : AccessCredential :=
  { c with
    lastUsedAt := some now
    status := if p.spent then .expired else c.status }

def nextAccess (db : AccessDb) (call : AccessCall) (input : AccessInput) :
    AccessDb × Option AccessCall :=
  match call with
  | .suspending target reason =>
    (db.updateMany (fun q => target.selects q && q.2.status = .active)
      (AccessCredential.suspend reason input.now), none)
  | .suspendingEach [] _ => (db, none)
  | .suspendingEach (id :: rest) reason =>
    if db.status id = some .active then
      (db.update id (AccessCredential.suspend reason input.now), some (.suspendingEach rest reason))
    else (db, none)
  | .resuming target reasonStart rest =>
    match db.select fun q => target.selects q && q.2.status = .suspended &&
        reasonStart.all fun start => q.2.suspendReason.any fun reason => startsWith reason start with
    | [] => (db, none)
    | ids => (db, some (.reactivating ids rest))
  | .reactivating ids rest =>
    (db.updateMany (fun q => q.1 ∈ ids) AccessCredential.resume,
      match rest with
      | [] => none
      | id :: rest => some (.resuming (.one id) none rest))
  | .revoking [] => (db, none)
  | .revoking (id :: rest) =>
    match db.status id with
    | none | some .revoked => (db, none)
    | _ => (db, some (.revokingRead id rest))
  | .revokingRead id rest =>
    if (db.credentials.find id).isSome then
      ({ db.update id (AccessCredential.revoke input.now) with
        revocations := id :: db.revocations }, some (.revoking rest))
    else (db, none)
  | .expiring [] => (db, none)
  | .expiring (id :: rest) =>
    if db.status id = some .active then
      ({ db.update id AccessCredential.expire with lapsed := id :: db.lapsed },
        some (.expiring rest))
    else (db, some (.expiring rest))
  | .lapsing id =>
    ({ db.update id AccessCredential.expire with lapsed := id :: db.lapsed }, none)
  | .claiming p =>
    if (db.credentials.find p.id).any fun c => p.row.maxUses.any fun limit => c.usesCount < limit then
      (db.update p.id fun c => { c with usesCount := c.usesCount + 1 }, some (.opening p))
    else (db, none)
  | .opening p =>
    if input.dispatched then
      ({ db with openings := ⟨p.id, p.late⟩ :: db.openings }, some (.marking p))
    else (db, if p.row.maxUses.isSome then some (.returning p) else none)
  | .returning p =>
    (db.update p.id fun c => if c.usesCount > 0 then { c with usesCount := c.usesCount - 1 } else c,
      none)
  | .marking p => (db.update p.id (p.mark input.now), none)

def accessSystem : Processes.System AccessDb AccessCall AccessRequest AccessInput where
  enter := enterAccess
  next db call input := some (nextAccess db call input)

/-! ### What the transactions do -/

def AccessCall.presented : AccessCall → Option Passed
  | .claiming p | .opening p | .returning p | .marking p => some p
  | _ => none

@[simp] theorem presented_begin (p : Passed) : p.begin.presented = some p := by
  rw [Passed.begin]
  split <;> rfl

inductive AccessMove (db : AccessDb) : AccessCall → AccessInput → AccessDb → Option AccessCall → Prop
  | reads {call : AccessCall} {input : AccessInput} {rest : Option AccessCall}
      (before : call.presented = none) (after : rest.bind AccessCall.presented = none) :
    AccessMove db call input db rest
  | suspends {target : CredentialTarget} {reason : String} {input : AccessInput} :
    AccessMove db (.suspending target reason) input
      (db.updateMany (fun q => target.selects q && q.2.status = .active)
        (AccessCredential.suspend reason input.now)) none
  | suspendsOne {id : CredentialId} {ids : List CredentialId} {reason : String} {input : AccessInput}
      (active : db.status id = some .active) :
    AccessMove db (.suspendingEach (id :: ids) reason) input
      (db.update id (AccessCredential.suspend reason input.now)) (some (.suspendingEach ids reason))
  | resumes {ids rest : List CredentialId} {input : AccessInput} {goes : Option AccessCall}
      (after : goes.bind AccessCall.presented = none) :
    AccessMove db (.reactivating ids rest) input
      (db.updateMany (fun q => q.1 ∈ ids) AccessCredential.resume) goes
  | revokes {id : CredentialId} {ids : List CredentialId} {input : AccessInput}
      {c : AccessCredential} (found : db.credentials.find id = some c) :
    AccessMove db (.revokingRead id ids) input
      { db.update id (AccessCredential.revoke input.now) with
        revocations := id :: db.revocations } (some (.revoking ids))
  | expires {id : CredentialId} {ids : List CredentialId} {input : AccessInput}
      (active : db.status id = some .active) :
    AccessMove db (.expiring (id :: ids)) input
      { db.update id AccessCredential.expire with lapsed := id :: db.lapsed } (some (.expiring ids))
  | lapses {id : CredentialId} {input : AccessInput} :
    AccessMove db (.lapsing id) input
      { db.update id AccessCredential.expire with lapsed := id :: db.lapsed } none
  | refuses {p : Passed} {input : AccessInput} : AccessMove db (.claiming p) input db none
  | claims {p : Passed} {input : AccessInput} {c : AccessCredential} {limit : ℤ}
      (found : db.credentials.find p.id = some c) (limited : p.row.maxUses = some limit)
      (room : c.usesCount < limit) :
    AccessMove db (.claiming p) input
      (db.update p.id fun c => { c with usesCount := c.usesCount + 1 }) (some (.opening p))
  | opens {p : Passed} {input : AccessInput} (dispatched : input.dispatched = true) :
    AccessMove db (.opening p) input
      { db with openings := ⟨p.id, p.late⟩ :: db.openings } (some (.marking p))
  | fails {p : Passed} {input : AccessInput} {limit : ℤ} (limited : p.row.maxUses = some limit) :
    AccessMove db (.opening p) input db (some (.returning p))
  | failsUnlimited {p : Passed} {input : AccessInput} (unlimited : p.row.maxUses = none) :
    AccessMove db (.opening p) input db none
  | returns {p : Passed} {input : AccessInput} :
    AccessMove db (.returning p) input
      (db.update p.id fun c =>
        if c.usesCount > 0 then { c with usesCount := c.usesCount - 1 } else c) none
  | marks {p : Passed} {input : AccessInput} :
    AccessMove db (.marking p) input (db.update p.id (p.mark input.now)) none

theorem nextAccess_move (db : AccessDb) (call : AccessCall) (input : AccessInput) :
    AccessMove db call input (nextAccess db call input).1 (nextAccess db call input).2 := by
  cases call with
  | suspending target reason => exact .suspends
  | suspendingEach ids reason =>
    cases ids with
    | nil => exact .reads rfl rfl
    | cons id ids =>
      simp only [nextAccess]
      split
      · rename_i active
        exact .suspendsOne active
      · exact .reads rfl rfl
  | resuming target reasonStart rest =>
    simp only [nextAccess]
    split <;> exact .reads rfl rfl
  | reactivating ids rest => cases rest <;> exact .resumes rfl
  | revoking ids =>
    cases ids with
    | nil => exact .reads rfl rfl
    | cons id ids =>
      simp only [nextAccess]
      split <;> exact .reads rfl rfl
  | revokingRead id ids =>
    simp only [nextAccess]
    split
    · rename_i there
      obtain ⟨c, found⟩ := Option.isSome_iff_exists.mp there
      exact .revokes found
    · exact .reads rfl rfl
  | expiring ids =>
    cases ids with
    | nil => exact .reads rfl rfl
    | cons id ids =>
      simp only [nextAccess]
      split
      · rename_i active
        exact .expires active
      · exact .reads rfl rfl
  | lapsing id => exact .lapses
  | claiming p =>
    simp only [nextAccess]
    split
    · rename_i room
      obtain ⟨c, found, room⟩ := (Option.any_eq_true _ _).mp room
      obtain ⟨limit, limited, room⟩ := (Option.any_eq_true _ _).mp room
      exact .claims found limited (by simpa using room)
    · exact .refuses
  | opening p =>
    simp only [nextAccess]
    split
    · rename_i dispatched
      exact .opens dispatched
    · cases limited : p.row.maxUses with
      | none => exact .failsUnlimited limited
      | some limit => exact .fails limited
  | returning p => exact .returns
  | marking p => exact .marks

variable {p : Passed}

theorem AccessMove.presented {db db' : AccessDb} {call r : AccessCall} {input : AccessInput}
    (move : AccessMove db call input db' (some r)) (passed : r.presented = some p) :
    call.presented = some p := by
  cases move with
  | reads _ after | resumes after =>
    rw [Option.bind_some, passed] at after
    cases after
  | suspendsOne | revokes | expires => cases passed
  | claims | opens | fails => exact passed

theorem enterAccess_presented {db : AccessDb} {request : AccessRequest} {r : AccessCall}
    (entered : enterAccess db request = some r) (passes : r.presented = some p) :
    r = p.begin ∧ db.credentials.find p.id = some p.row ∧ p.row.status = .active ∧
      p.late = decide (p.id ∈ db.revocations) := by
  cases request with
  | resumeAllForCustomer =>
    simp only [enterAccess] at entered
    split at entered <;> cases entered
    cases passes
  | sweep =>
    simp only [enterAccess] at entered
    split at entered <;> cases entered
    cases passes
  | verify id device hours now =>
    obtain ⟨row, found, entered⟩ := Option.bind_eq_some_iff.mp entered
    split at entered
    · rename_i allowed
      cases entered
      rw [presented_begin] at passes
      cases passes
      exact ⟨rfl, found, evaluateCredential_active (denies_none allowed), rfl⟩
    · split at entered <;> cases entered
      cases passes
  | openForCustomer customerId device hasContract hours now =>
    simp only [enterAccess] at entered
    split at entered
    · cases entered
    · obtain ⟨⟨id, row⟩, chosen, rfl⟩ := Option.map_eq_some_iff.mp entered
      rw [presented_begin] at passes
      cases passes
      have allowed := List.find?_some chosen
      have listed := List.mem_of_find?_eq_some chosen
      have row := List.mem_of_mem_filter ((List.mem_append.mp listed).elim
        List.mem_of_mem_filter List.mem_of_mem_filter)
      refine ⟨rfl, Table.find_eq_some.mpr row, ?_, rfl⟩
      exact evaluateCredential_active (denies_none (by simpa using allowed))
  | _ =>
    cases entered
    cases passes

end StorageOS
