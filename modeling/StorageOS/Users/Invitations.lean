import StorageOS.Users.Owners

/-! Invitations of users and the limit of users of a plan (`invitations/invitations.service.ts`,
`invitations/invitation-tokens.service.ts`, `plan-limits/plan-limits.service.ts`), beside the requests of
`UsersService`. Each statement of a request is a step. -/

namespace StorageOS

open Processes

abbrev InvitationId := ℕ

structure Invitation where
  tenantId : TenantId
  email : String
  role : AssignableRole
  expiresAt : Instant
  acceptedAt : Option Instant
  revokedAt : Option Instant
  deriving DecidableEq

/-- Neither accepted nor revoked: what the unique index of pending invitations covers. -/
def Invitation.pending (row : Invitation) : Bool := row.acceptedAt = none && row.revokedAt = none

def Invitation.live (now : Instant) (row : Invitation) : Bool := row.pending && now < row.expiresAt

/-- A user, with the e-mail and the invitation that created it, which the audit log keeps. -/
structure Member where
  user : TenantUser
  email : String
  viaInvitationId : Option InvitationId
  deriving DecidableEq

def Member.edit (f : TenantUser → TenantUser) (member : Member) : Member :=
  { member with user := f member.user }

/-! ### `PlanLimitsService` -/

structure UsersAddon where
  grantsUsers : Option ℤ
  quantity : ℤ
  suspended : Bool
  deriving DecidableEq

/-- The users of the plan of a tenant's subscription (`none` also without one) and its add-ons. -/
structure UsersCapacity where
  maxUsers : Option ℤ
  addons : List UsersAddon
  deriving DecidableEq

def UsersCapacity.extraUsers (capacity : UsersCapacity) : ℤ :=
  ((capacity.addons.filter fun a => !a.suspended).map fun a => a.grantsUsers.getD 0 * a.quantity).sum

/-- `resolveLimits`, for users; `none` is without limit. -/
def UsersCapacity.limit (capacity : UsersCapacity) : Option ℤ :=
  capacity.maxUsers.map (· + capacity.extraUsers)

structure LimitRead where
  maxUsers : Option (Option ℤ)
  extraUsers : Option ℤ
  deriving DecidableEq

def LimitRead.readPlan (read : LimitRead) (capacity : UsersCapacity) : LimitRead :=
  { read with maxUsers := read.maxUsers.or (some capacity.maxUsers) }

def LimitRead.readAddons (read : LimitRead) (capacity : UsersCapacity) : LimitRead :=
  { read with extraUsers := read.extraUsers.or (some capacity.extraUsers) }

def assertCanCreate (limit : Option ℤ) (currentCount : ℤ) : Bool := !limit.any (· ≤ currentCount)

/-! ### State -/

structure SeatsDb where
  members : Table UserId Member
  invitations : Table InvitationId Invitation
  capacity : TenantId → UsersCapacity
  /-- The tenants whose advisory lock on users is taken. -/
  locks : List TenantId
  clock : Instant

def SeatsDb.hasEmail (db : SeatsDb) (tenantId : TenantId) (email : String) : Bool :=
  db.members.values.any fun member => member.user.tenantId = tenantId && member.email = email

def SeatsDb.hasPending (db : SeatsDb) (tenantId : TenantId) (email : String) : Bool :=
  db.invitations.values.any fun row => row.tenantId = tenantId && row.email = email && row.pending

def SeatsDb.activeUsers (db : SeatsDb) (tenantId : TenantId) : ℤ :=
  db.members.sum fun member => if member.user.tenantId = tenantId ∧ member.user.isActive then 1 else 0

def SeatsDb.liveInvitations (db : SeatsDb) (tenantId : TenantId) (now : Instant) : ℤ :=
  db.invitations.sum fun row => if row.tenantId = tenantId ∧ row.live now then 1 else 0

structure Invite where
  tenantId : TenantId
  email : String
  role : AssignableRole
  expiresAt : Instant
  deriving DecidableEq

def Invite.row (invite : Invite) : Invitation :=
  ⟨invite.tenantId, invite.email, invite.role, invite.expiresAt, none, none⟩

/-- `TTL_DAYS`, in milliseconds. -/
def invitationTtl : ℤ := 7 * 24 * 60 * 60 * 1000

inductive SeatsRequest
  | create (tenantId : TenantId) (email : String) (role : AssignableRole)
  | resend (tenantId : TenantId) (id : InvitationId)
  | revoke (tenantId : TenantId) (id : InvitationId)
  /-- `secretMatches` is what `argonVerify` says of the token's secret. -/
  | accept (id : InvitationId) (secretMatches : Bool)
  | users (actor : AccessToken) (request : UsersRequest)
  | changeCapacity (tenantId : TenantId) (capacity : UsersCapacity)

inductive SeatsCall
  | hashing (tenantId : TenantId) (email : String) (role : AssignableRole)
  | locking (invite : Invite)
  | counting (invite : Invite) (activeUsers : ℤ)
  | resolving (invite : Invite) (counted : ℤ) (read : LimitRead)
  | checking (invite : Invite) (counted : ℤ) (limit : Option ℤ)
  | creating (invite : Invite) (counted : ℤ) (limit : Option ℤ)
  | replacing (id : InvitationId) (original : Invitation)
  | rehashing (tenantId : TenantId) (email : String) (role : AssignableRole)
  | recreating (invite : Invite)
  | revoking (tenantId : TenantId) (id : InvitationId)
  | marking (id : InvitationId) (record : Invitation)
  | rechecking (id : InvitationId) (record : Invitation)
  | saving (id : InvitationId) (record : Invitation)
  | ofUsers (call : UsersCall)
  | changing (tenantId : TenantId) (capacity : UsersCapacity)

/-- When a step is made, whether the request ends there instead, and which of the two reads of a limit it is. -/
structure SeatsInput where
  moment : Instant
  stops : Bool
  plan : Bool
  deriving DecidableEq

/-- What a request reads when it arrives: the user of an e-mail, the invitation of an id, or the token's. -/
def enterSeats (db : SeatsDb) : SeatsRequest → Option SeatsCall
  | .create tenantId email role =>
    if db.hasEmail tenantId email then none
    else some (.hashing tenantId email role)
  | .resend tenantId id =>
    ((db.invitations.find id).filter fun row => row.tenantId = tenantId && row.acceptedAt = none).map fun row =>
      if row.revokedAt = none then .replacing id row
      else .rehashing row.tenantId row.email row.role
  | .revoke tenantId id => some (.revoking tenantId id)
  | .accept id secretMatches =>
    ((db.invitations.find id).filter fun row => row.live db.clock && secretMatches).map fun row => .marking id row
  | .users actor request =>
    if actor.admitted (db.members.view Member.user) then some (.ofUsers (.reading actor request)) else none
  | .changeCapacity tenantId capacity => some (.changing tenantId capacity)

/-- The lock that a creation holds is released with its transaction. -/
def SeatsCall.holds : SeatsCall → Option TenantId
  | .counting invite _ | .resolving invite _ _ | .checking invite _ _ | .creating invite _ _ =>
    some invite.tenantId
  | _ => none

def SeatsDb.release (db : SeatsDb) (call : SeatsCall) : SeatsDb :=
  { db with locks := call.holds.elim db.locks db.locks.erase }

/-- The steps of `UsersService`, on the users as rows with an e-mail. -/
def stepMembers (members : Table UserId Member) : UsersCall → Table UserId Member × Option UsersCall
  | .reading actor request => (members, readTarget (members.view Member.user) actor request)
  | .updating targetUserId input => (members.modify targetUserId (Member.edit input.write), none)
  | .deactivating targetUserId =>
    (members.modify targetUserId (Member.edit fun user => { user with isActive := false }), none)
  | .transferring fromUserId toUserId =>
    ((members.modify fromUserId (Member.edit TenantUser.demote)).modify toUserId (Member.edit TenantUser.promote),
      none)

/-- They are the steps of `UsersService` on its rows. -/
theorem stepMembers_users (members : Table UserId Member) (call : UsersCall) :
    stepUsers (members.view Member.user) call () =
      some ((stepMembers members call).1.view Member.user, (stepMembers members call).2) := by
  have edited : ∀ (members : Table UserId Member) (k : UserId) (f : TenantUser → TenantUser),
      (members.modify k (Member.edit f)).view Member.user = (members.view Member.user).modify k f :=
    fun members k f => Table.view_modify fun _ _ => rfl
  cases call with
  | reading => rfl
  | updating => exact congrArg (fun t => some (t, none)) (edited _ _ _).symm
  | deactivating => exact congrArg (fun t => some (t, none)) (edited _ _ _).symm
  | transferring fromUserId toUserId =>
    simp only [stepUsers, stepMembers, edited]

def runSeats (db : SeatsDb) (plan : Bool) : SeatsCall → Option (SeatsDb × Option SeatsCall)
  -- `hashSecret` and `buildExpiry`.
  | .hashing tenantId email role => some (db, some (.locking ⟨tenantId, email, role, db.clock + invitationTtl⟩))
  | .locking invite =>
    -- `pg_advisory_xact_lock` waits; the users are counted once it is taken.
    if invite.tenantId ∈ db.locks then none
    else some ({ db with locks := invite.tenantId :: db.locks },
      some (.counting invite (db.activeUsers invite.tenantId)))
  | .counting invite activeUsers =>
    some (db, some (.resolving invite (activeUsers + db.liveInvitations invite.tenantId db.clock) ⟨none, none⟩))
  | .resolving invite counted read =>
    let capacity := db.capacity invite.tenantId
    let read := if plan then read.readPlan capacity else read.readAddons capacity
    match read.maxUsers, read.extraUsers with
    | some maxUsers, some extraUsers =>
      let limit := maxUsers.map (· + extraUsers)
      if assertCanCreate limit counted then some (db, some (.checking invite counted limit))
      else some (db.release (.resolving invite counted read), none)
    | _, _ => some (db, some (.resolving invite counted read))
  | .checking invite counted limit =>
    let taken := db.invitations.values.any fun row =>
      row.tenantId = invite.tenantId && row.email = invite.email && row.live db.clock
    if taken then some (db.release (.checking invite counted limit), none)
    else some (db, some (.creating invite counted limit))
  -- The last writes of the transaction: those that expired are closed, and the new one is made.
  | .creating invite counted limit =>
    let closed := db.invitations.updateMany
      (fun q => q.2.tenantId = invite.tenantId && q.2.email = invite.email && q.2.pending)
      fun row => { row with revokedAt := some db.clock }
    some ({ db.release (.creating invite counted limit) with invitations := closed.push invite.row }, none)
  | .replacing id original =>
    let revoked := db.invitations.modify id fun row => { row with revokedAt := some db.clock }
    some ({ db with invitations := revoked },
      some (.rehashing original.tenantId original.email original.role))
  | .rehashing tenantId email role => some (db, some (.recreating ⟨tenantId, email, role, db.clock + invitationTtl⟩))
  | .recreating invite =>
    if db.hasPending invite.tenantId invite.email then some (db, none)
    else some ({ db with invitations := db.invitations.push invite.row }, none)
  | .revoking tenantId id =>
    let revoked := db.invitations.modify id fun row =>
      if row.tenantId = tenantId ∧ row.pending then { row with revokedAt := some db.clock } else row
    some ({ db with invitations := revoked }, none)
  -- `markAccepted`, which does not look at the expiry.
  | .marking id record =>
    if (db.invitations.find id).any (·.pending) then
      some ({ db with invitations :=
        db.invitations.modify id fun row => { row with acceptedAt := some db.clock } }, some (.rechecking id record))
    else some (db, none)
  | .rechecking id record =>
    if db.hasEmail record.tenantId record.email then some (db, none) else some (db, some (.saving id record))
  -- The unique index on tenant and e-mail.
  | .saving id record =>
    if db.hasEmail record.tenantId record.email then some (db, none)
    else some ({ db with
      members := db.members.push ⟨⟨record.tenantId, record.role.val, none, true⟩, record.email, some id⟩ }, none)
  | .ofUsers call =>
    let made := stepMembers db.members call
    some ({ db with members := made.1 }, made.2.map .ofUsers)
  | .changing tenantId capacity =>
    some ({ db with capacity := Function.update db.capacity tenantId capacity }, none)

def stepSeats (db : SeatsDb) (call : SeatsCall) (input : SeatsInput) : Option (SeatsDb × Option SeatsCall) :=
  if input.moment < db.clock then none
  else
    let db := { db with clock := input.moment }
    if input.stops then some (db.release call, none) else runSeats db input.plan call

def seatsSystem : System SeatsDb SeatsCall SeatsRequest SeatsInput where
  enter := enterSeats
  next := stepSeats

end StorageOS
