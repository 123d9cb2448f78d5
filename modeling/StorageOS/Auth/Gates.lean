import StorageOS.Auth.Sessions

/-! The entry points that return an access token, the tokens sent by e-mail, and what changes users and tenants
meanwhile. A request reads and writes in separate steps. Whether the refresh token of a session is exchanged is up to
`SessionsService.rotate`; here it may be or not. -/

namespace StorageOS

abbrev TokenId := ℕ

inductive UserRole
  | owner
  | manager
  | staff
  | readonly
  deriving DecidableEq

structure AuthUser where
  tenantId : TenantId
  email : String
  passwordHash : String
  role : UserRole
  isActive : Bool
  emailVerifiedAt : Option Instant
  twoFactorEnabled : Bool
  twoFactorPendingSecret : Option String
  twoFactorSecret : Option String
  deriving DecidableEq

structure AuthTenant where
  slug : String
  deletedAt : Option Instant
  requireTwoFactorForManagers : Bool
  subscribed : Bool
  deriving DecidableEq

/-- A session, and whether the login that opened it passed a second factor. -/
structure AuthSession where
  userId : UserId
  tenantId : TenantId
  secondFactor : Bool
  deriving DecidableEq

/-! ### Tokens sent by e-mail -/

/-- `VerificationTokensService` and `PasswordResetTokensService`. -/
inductive TokenKind
  | verification
  | passwordReset
  deriving DecidableEq

/-- `TTL_HOURS` of the first and `TTL_MINUTES` of the second, in milliseconds. -/
def TokenKind.ttl : TokenKind → ℤ
  | .verification => 24 * 60 * 60 * 1000
  | .passwordReset => 60 * 60 * 1000

structure EmailedToken where
  tenantId : TenantId
  userId : UserId
  tokenHash : String
  expiresAt : Instant
  usedAt : Option Instant
  deriving DecidableEq

structure ConsumedToken where
  id : TokenId
  newer : List TokenId
  deriving DecidableEq

structure TokenStore where
  rows : Table TokenId EmailedToken
  consumed : List ConsumedToken

namespace TokenStore

/-- The first statement of `issue`: the tokens of the user that were not used are. -/
def invalidate (store : TokenStore) (userId : UserId) (now : Instant) : TokenStore :=
  { store with
    rows := store.rows.updateMany (fun q => q.2.userId = userId && q.2.usedAt.isNone) fun token =>
      { token with usedAt := some now } }

def create (store : TokenStore) (kind : TokenKind) (tenantId : TenantId) (userId : UserId)
    (tokenHash : String) (now : Instant) : TokenStore :=
  { store with rows := store.rows.push ⟨tenantId, userId, tokenHash, now + kind.ttl, none⟩ }

/-- The read of `consume`. -/
def readToken (argonVerify : String → String → Bool) (store : TokenStore) (id : TokenId)
    (secret : String) (now : Instant) : Option EmailedToken :=
  (store.rows.find id).filter fun record =>
    record.usedAt.isNone && now < record.expiresAt && argonVerify record.tokenHash secret

def newer (store : TokenStore) (id : TokenId) (userId : UserId) : List TokenId :=
  (store.rows.rows.filter fun q => q.2.userId = userId && id < q.1).map Prod.fst

/-- The write of `consume`, `none` when the token is used by then. -/
def consume (store : TokenStore) (id : TokenId) (now : Instant) : Option TokenStore :=
  match store.rows.find id with
  | none => none
  | some record =>
    if record.usedAt.isNone then
      some {
        rows := store.rows.modify id fun token => { token with usedAt := some now }
        consumed := ⟨id, store.newer id record.userId⟩ :: store.consumed }
    else none

end TokenStore

/-! ### Entry points -/

/-- An access token signed: its user and its tenant at that moment, and whether the login of its session
passed a second factor. -/
structure AccessGrant where
  user : Option AuthUser
  tenant : Option AuthTenant
  secondFactor : Bool
  deriving DecidableEq

/-- The user is active and has a verified e-mail, the tenant is not deleted, and the login passed a second
factor if the user has it enabled. -/
def AccessGrant.allowed (g : AccessGrant) : Bool :=
  g.user.any (fun user => user.isActive && user.emailVerifiedAt.isSome &&
    (!user.twoFactorEnabled || g.secondFactor)) &&
  g.tenant.any fun tenant => tenant.deletedAt.isNone

structure AuthDb where
  users : Table UserId AuthUser
  tenants : Table TenantId AuthTenant
  sessions : Table SessionId AuthSession
  tokens : TokenKind → TokenStore
  grants : List AccessGrant

def AuthDb.opening (users : Table UserId AuthUser) (tenants : Table TenantId AuthTenant) : AuthDb :=
  ⟨users, tenants, .empty, fun _ => ⟨.empty, []⟩, []⟩

def AuthDb.setTokens (db : AuthDb) (kind : TokenKind) (store : TokenStore) : AuthDb :=
  { db with tokens := fun kind' => if kind' = kind then store else db.tokens kind' }

/-- What else changes users and tenants: `createTenantAccount`, an accepted invitation, the activation
and deactivation of a user, `verifyEmailManually`, the set-up, enabling and disabling of the second factor,
the policy of the tenant and its deletion (`AdminTenantsService.anonymize`). -/
inductive AccountChange
  | createTenantAccount (tenant : AuthTenant) (owner : AuthUser)
  | acceptInvitation (user : AuthUser)
  | setUserActive (userId : UserId) (active : Bool)
  | verifyEmailManually (userId : UserId) (now : Instant)
  | setupTwoFactor (userId : UserId) (secret : String)
  | enableTwoFactor (userId : UserId)
  | disableTwoFactor (userId : UserId)
  | setSecurity (tenantId : TenantId) (requireTwoFactorForManagers : Bool)
  | anonymize (tenantId : TenantId) (now : Instant)

def AuthUser.anonymized (placeholderHash : String) (id : UserId) (user : AuthUser) : AuthUser :=
  { user with
    email := "anon-" ++ toString id ++ "@anonymized.invalid"
    passwordHash := placeholderHash
    twoFactorSecret := none
    twoFactorPendingSecret := none
    twoFactorEnabled := false
    isActive := false }

section

variable (argonVerify : String → String → Bool) (placeholderHash : String)

def AccountChange.apply (db : AuthDb) : AccountChange → AuthDb
  | .createTenantAccount tenant owner =>
    { db with
      tenants := db.tenants.push tenant
      users := db.users.push { owner with tenantId := db.tenants.nextKey } }
  | .acceptInvitation user => { db with users := db.users.push user }
  | .setUserActive userId isActive =>
    { db with users := db.users.modify userId fun user => { user with isActive } }
  | .verifyEmailManually userId now =>
    { db with users := db.users.modify userId fun user => { user with emailVerifiedAt := some now } }
  | .setupTwoFactor userId secret =>
    { db with
      users := db.users.modify userId fun user =>
        if user.twoFactorEnabled then user else { user with twoFactorPendingSecret := some secret } }
  | .enableTwoFactor userId =>
    { db with
      users := db.users.modify userId fun user =>
        if user.twoFactorEnabled || user.twoFactorPendingSecret.isNone then user
        else
          { user with
            twoFactorSecret := user.twoFactorPendingSecret
            twoFactorPendingSecret := none
            twoFactorEnabled := true } }
  | .disableTwoFactor userId =>
    { db with
      users := db.users.modify userId fun user =>
        { user with
          twoFactorSecret := none
          twoFactorPendingSecret := none
          twoFactorEnabled := false } }
  | .setSecurity tenantId requireTwoFactorForManagers =>
    { db with
      tenants := db.tenants.modify tenantId fun tenant => { tenant with requireTwoFactorForManagers } }
  | .anonymize tenantId now =>
    { db with
      users := ((db.users.rows.filter fun q => q.2.tenantId = tenantId).map Prod.fst).foldl
        (fun users id => users.modify id (AuthUser.anonymized placeholderHash id)) db.users
      sessions := db.sessions.deleteMany fun q => q.2.tenantId = tenantId
      tenants := db.tenants.modify tenantId fun tenant => { tenant with deletedAt := some now } }

inductive AuthRequest
  | login (tenantSlug email password : String)
  /-- With what the pending token of a login says. -/
  | challenge (userId : UserId) (tenantId : TenantId)
  | enrolRequiredVerify (userId : UserId) (tenantId : TenantId)
  | refresh (sessionId : SessionId)
  | verifyEmail (id : TokenId) (secret : String) (now : Instant)
  | resetPassword (id : TokenId) (secret passwordHash : String) (now : Instant)
  | resendVerification (tenantSlug email : String)
  /-- After `register`, or a reminder. -/
  | sendVerificationEmail (tenantId : TenantId) (userId : UserId)
  | forgotPassword (tenantSlug email : String)
  | change (c : AccountChange)

/-- What a consumed token is for. -/
inductive TokenUse
  | verifyEmail
  | resetPassword (passwordHash : String)

def TokenUse.kind : TokenUse → TokenKind
  | .verifyEmail => .verification
  | .resetPassword _ => .passwordReset

inductive AuthCall
  | loggingIn (tenantId : TenantId) (tenant : AuthTenant) (email password : String)
  | challenged (userId : UserId) (tenantId : TenantId)
  | enrolling (userId : UserId) (tenantId : TenantId) (secret : String)
  | completing (userId : UserId) (tenantId : TenantId)
  | completingFor (userId : UserId) (user : AuthUser) (tenantId : TenantId)
  | emitting (userId : UserId) (user : AuthUser) (tenantId : TenantId) (tenant : AuthTenant)
      (secondFactor : Bool)
  | rotating (sessionId : SessionId)
  | refreshing (sessionId : SessionId) (session : AuthSession)
  | signing (sessionId : SessionId) (session : AuthSession) (user : AuthUser)
  | consuming (id : TokenId) (record : EmailedToken) (use : TokenUse)
  | verifying (userId : UserId) (tenantId : TenantId)
  | verified (userId : UserId) (user : AuthUser) (tenantId : TenantId)
  | resetting (userId : UserId) (passwordHash : String)
  | issuing (kind : TokenKind) (tenantId : TenantId) (userId : UserId)
  | creating (kind : TokenKind) (tenantId : TenantId) (userId : UserId)
  | changing (c : AccountChange)

def TokenUse.next (record : EmailedToken) : TokenUse → AuthCall
  | .verifyEmail => .verifying record.userId record.tenantId
  | .resetPassword passwordHash => .resetting record.userId passwordHash

/-- A step: whether a code is right or a session exchanged, and the hash of a secret made. -/
inductive AuthInput
  | proceed (now : Instant) (accepted : Bool) (hash : String)
  | fail

def completeLoginAfter2fa (userId : UserId) (tenantId : TenantId) : AuthCall := .completing userId tenantId

def completeLoginAfterEnrolment (userId : UserId) (tenantId : TenantId) : AuthCall :=
  .completing userId tenantId

def AuthDb.tenantOf (db : AuthDb) (slug : String) : Option (TenantId × AuthTenant) :=
  db.tenants.rows.find? fun q => q.2.slug = slug

def AuthDb.userOf (db : AuthDb) (tenantId : TenantId) (email : String) : Option (UserId × AuthUser) :=
  db.users.rows.find? fun q => q.2.tenantId = tenantId && q.2.email = email

def AuthDb.account (db : AuthDb) (tenantSlug email : String) : Option (UserId × AuthUser) :=
  (db.tenantOf tenantSlug).bind fun t => db.userOf t.1 email

def enterAuth (db : AuthDb) : AuthRequest → Option AuthCall
  | .login tenantSlug email password =>
    (db.tenantOf tenantSlug).bind fun (tenantId, tenant) =>
      if tenant.deletedAt.isSome then none else some (.loggingIn tenantId tenant email password)
  | .challenge userId tenantId =>
    (db.users.find userId).bind fun user =>
      if user.tenantId = tenantId && user.twoFactorEnabled && user.twoFactorSecret.isSome then
        some (.challenged userId tenantId)
      else none
  | .enrolRequiredVerify userId tenantId =>
    (db.users.find userId).bind fun user =>
      if user.tenantId = tenantId && user.isActive && user.emailVerifiedAt.isSome &&
          !user.twoFactorEnabled then
        user.twoFactorPendingSecret.map fun secret => .enrolling userId tenantId secret
      else none
  | .refresh sessionId => some (.rotating sessionId)
  | .verifyEmail id secret now =>
    ((db.tokens .verification).readToken argonVerify id secret now).map fun record =>
      .consuming id record .verifyEmail
  | .resetPassword id secret passwordHash now =>
    ((db.tokens .passwordReset).readToken argonVerify id secret now).map fun record =>
      .consuming id record (.resetPassword passwordHash)
  | .resendVerification tenantSlug email =>
    (db.account tenantSlug email).bind fun (userId, user) =>
      if user.emailVerifiedAt.isSome || !user.isActive then none
      else some (.issuing .verification user.tenantId userId)
  | .sendVerificationEmail tenantId userId =>
    (db.tenants.find tenantId).bind fun _ =>
      (db.users.find userId).map fun _ => .issuing .verification tenantId userId
  | .forgotPassword tenantSlug email =>
    (db.account tenantSlug email).bind fun (userId, user) =>
      if user.isActive then some (.issuing .passwordReset user.tenantId userId) else none
  | .change c => some (.changing c)

/-- `login`, from the read of the user on. -/
def loginUser (db : AuthDb) (tenantId : TenantId) (tenant : AuthTenant) (email password : String) :
    Option AuthCall :=
  (db.userOf tenantId email).bind fun (userId, user) =>
    if !argonVerify user.passwordHash password then none
    else if !user.isActive then none
    else if user.emailVerifiedAt.isNone then none
    else if !(db.tenants.find tenantId).any AuthTenant.subscribed then none
    else if user.twoFactorEnabled then none
    else if tenant.requireTwoFactorForManagers && (user.role = .owner || user.role = .manager) then none
    else some (.emitting userId user tenantId tenant false)

/-- `emitAuthSuccess`, after the read of the subscription: a session and its access token. -/
def emitAuthSuccess (db : AuthDb) (userId : UserId) (tenantId : TenantId) (secondFactor : Bool) :
    AuthDb :=
  if (db.tenants.find tenantId).any AuthTenant.subscribed then
    { db with
      sessions := db.sessions.push ⟨userId, tenantId, secondFactor⟩
      grants := ⟨db.users.find userId, db.tenants.find tenantId, secondFactor⟩ :: db.grants }
  else db

def stepAuth (db : AuthDb) (now : Instant) (accepted : Bool) (hash : String) :
    AuthCall → AuthDb × Option AuthCall
  | .loggingIn tenantId tenant email password =>
    (db, loginUser argonVerify db tenantId tenant email password)
  | .challenged userId tenantId =>
    (db, if accepted then some (completeLoginAfter2fa userId tenantId) else none)
  | .enrolling userId tenantId secret =>
    if accepted then
      ({ db with
          users := db.users.modify userId fun user =>
            { user with
              twoFactorSecret := some secret
              twoFactorPendingSecret := none
              twoFactorEnabled := true } },
        some (completeLoginAfterEnrolment userId tenantId))
    else (db, none)
  | .completing userId tenantId =>
    (db, (db.users.find userId).bind fun user =>
      if user.tenantId ≠ tenantId || !user.isActive || user.emailVerifiedAt.isNone then none
      else some (.completingFor userId user tenantId))
  | .completingFor userId user tenantId =>
    (db, (db.tenants.find tenantId).bind fun tenant =>
      if tenant.deletedAt.isSome then none else some (.emitting userId user tenantId tenant true))
  | .emitting userId _ tenantId _ secondFactor => (emitAuthSuccess db userId tenantId secondFactor, none)
  | .rotating sessionId =>
    match db.sessions.find sessionId with
    | none => (db, none)
    | some session =>
      if accepted then
        ({ db with sessions := db.sessions.push session },
          some (.refreshing db.sessions.nextKey session))
      else (db, none)
  | .refreshing sessionId session =>
    (db, (db.users.find session.userId).bind fun user =>
      if !user.isActive || user.emailVerifiedAt.isNone then none
      else some (.signing sessionId session user))
  | .signing _ session _ =>
    ({ db with
        grants := ⟨db.users.find session.userId, db.tenants.find session.tenantId,
          session.secondFactor⟩ :: db.grants }, none)
  | .consuming id record use =>
    match (db.tokens use.kind).consume id now with
    | none => (db, none)
    | some store =>
      (db.setTokens use.kind store, some (use.next record))
  | .verifying userId tenantId =>
    match db.users.find userId with
    | none => (db, none)
    | some user =>
      ({ db with users := db.users.modify userId fun user => { user with emailVerifiedAt := some now } },
        some (.verified userId { user with emailVerifiedAt := some now } tenantId))
  | .verified userId user tenantId =>
    (db, (db.tenants.find tenantId).map fun tenant => .emitting userId user tenantId tenant false)
  | .resetting userId passwordHash =>
    ({ db with users := db.users.modify userId fun user => { user with passwordHash } }, none)
  | .issuing kind tenantId userId =>
    (db.setTokens kind ((db.tokens kind).invalidate userId now), some (.creating kind tenantId userId))
  | .creating kind tenantId userId =>
    (db.setTokens kind ((db.tokens kind).create kind tenantId userId hash now), none)
  | .changing c => (c.apply placeholderHash db, none)

def nextAuth (db : AuthDb) (call : AuthCall) : AuthInput → Option (AuthDb × Option AuthCall)
  | .proceed now accepted hash => some (stepAuth argonVerify placeholderHash db now accepted hash call)
  | .fail => some (db, none)

def authSystem : Processes.System AuthDb AuthCall AuthRequest AuthInput where
  enter := enterAuth argonVerify
  next := nextAuth argonVerify placeholderHash

end

end StorageOS
