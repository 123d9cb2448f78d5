import StorageOS.Billing.Rows
import StorageOS.Lib.Processes

/-! Refresh sessions. A login opens a session; its refresh token is exchanged for that of a new
one, which names the session it comes from. A token presented again is forgiven in the races of a
browser and otherwise closes all the sessions of its user. A transaction that has changed a row
holds it until it ends. -/

namespace StorageOS

abbrev SessionId := ℕ
abbrev UserId := ℕ

inductive RevocationReason
  | logout
  | logoutAll
  | rotated
  | refreshReuse
  | lostResponse
  deriving DecidableEq

/-- `revokedAt` and `revokedReason`. -/
structure Revocation where
  revokedAt : Instant
  revokedReason : RevocationReason
  deriving DecidableEq

structure Session where
  userId : UserId
  refreshTokenHash : String
  userAgent : Option String
  expiresAt : Instant
  installedApp : Bool
  revoked : Option Revocation
  rotatedFromId : Option SessionId
  createdAt : Instant
  deriving DecidableEq

/-- `argon2.verify` and the lifetimes of a session in a browser and in the installed app. -/
structure SessionsConfig where
  verifyRefreshSecret : String → String → Bool
  refreshTtl : ℤ
  refreshAppTtl : ℤ

def refreshReuseGraceMs : ℤ := 30000
def refreshReuseGraceMaxForks : ℤ := 3

structure RefreshToken where
  sessionId : SessionId
  secret : String

structure RotateSessionArgs where
  refreshToken : RefreshToken
  userAgent : Option String
  installedApp : Bool

/-- A presented token. `spent` and `live` record, when it is presented, whether it is past its grace
with an heir rotated or logged out, and the live sessions of its user. -/
structure Rotation where
  args : RotateSessionArgs
  spent : Bool
  live : List SessionId

def Rotation.token (r : Rotation) : SessionId := r.args.refreshToken.sessionId

/-- How the exchange of a token ended: the session issued, if any, and the sessions that its user had
then. -/
structure RotationAnswer where
  rotation : Rotation
  issued : Option SessionId
  sessions : List SessionId

/-- An open transaction that issues a session for a token, and the rows that it has changed. -/
structure Issuing where
  token : SessionId
  rows : List SessionId
  deriving DecidableEq

/-- The sessions as committed, the open transactions that issue sessions, and the instant of the last
step. The rest is history: the sessions there were when those of their user were all closed, and the
answers. -/
structure SessionDb where
  sessions : Table SessionId Session
  issuing : List Issuing
  clock : Instant
  closed : List SessionId
  answers : List RotationAnswer

def SessionDb.empty (clock : Instant) : SessionDb := ⟨.empty, [], clock, [], []⟩

def SessionDb.held (db : SessionDb) : List SessionId := db.issuing.flatMap Issuing.rows

def Session.live (s : Session) : Bool := s.revoked = none

/-- The sessions that an `updateMany` changes, when they are live. -/
inductive RevokeScope
  | session (id : SessionId)
  | own (userId : UserId) (id : SessionId)
  | others (userId : UserId) (keepSessionId : Option SessionId)
  | all (userId : UserId)

def RevokeScope.selects : RevokeScope → SessionId → Session → Bool
  | .session id, k, s => k = id && s.live
  | .own userId id, k, s => k = id && s.userId = userId && s.live
  | .others userId keep, k, s => s.userId = userId && keep ≠ some k && s.live
  | .all userId, _, s => s.userId = userId && s.live

def SessionDb.select (db : SessionDb) (p : SessionId → Session → Bool) : List SessionId :=
  (db.sessions.rows.filter fun q => p q.1 q.2).map Prod.fst

def SessionDb.heirs (db : SessionDb) (token : SessionId) : List (SessionId × Session) :=
  db.sessions.rows.filter fun q => q.2.rotatedFromId = some token

def SessionDb.revoke (db : SessionDb) (ids : List SessionId) (revoked : Revocation) :
    Table SessionId Session :=
  db.sessions.updateMany (fun q => q.2.live && q.1 ∈ ids) fun s => { s with revoked := some revoked }

inductive SessionRequest
  | login (userId : UserId) (userAgent : Option String) (installedApp : Bool)
  | rotate (args : RotateSessionArgs)
  | revoke (scope : RevokeScope) (reason : RevocationReason)

/-- What a request does next. A rotation keeps the session as it read it and the instant it read. -/
inductive SessionCall
  | inserting (userId : UserId) (userAgent : Option String) (installedApp : Bool)
  | reading (r : Rotation)
  | claiming (r : Rotation) (session : Session) (now : Instant)
  | claimed (r : Rotation) (session : Session) (now created : Instant)
  | rereading (r : Rotation) (session : Session)
  | deciding (r : Rotation) (session : Session)
  | forking (r : Rotation) (session : Session) (created : Instant)
  | substituting (r : Rotation) (session : Session) (live : List SessionId) (created : Instant)
  | replacing (r : Rotation) (session : Session) (live : List SessionId) (now created : Instant)
  | revoking (scope : RevokeScope) (reason : RevocationReason) (after : Option Rotation)
  | writing (scope : RevokeScope) (reason : RevocationReason) (ids : List SessionId)
      (after : Option Rotation)

inductive SessionInput
  | proceed (now : Instant) (secretHash : String)
  | fail

section

variable (config : SessionsConfig)

def computeExpiresAt (installedApp : Bool) (now : Instant) : Instant :=
  now + 1000 * if installedApp then config.refreshAppTtl else config.refreshTtl

def loginSession (userId : UserId) (userAgent : Option String) (installedApp : Bool)
    (created : Instant) (secretHash : String) : Session where
  userId
  refreshTokenHash := secretHash
  userAgent
  expiresAt := computeExpiresAt config installedApp created
  installedApp
  revoked := none
  rotatedFromId := none
  createdAt := created

def heirOf (r : Rotation) (session : Session) (created : Instant) (secretHash : String) :
    Session where
  userId := session.userId
  refreshTokenHash := secretHash
  userAgent := r.args.userAgent
  expiresAt := computeExpiresAt config (session.installedApp || r.args.installedApp) created
  installedApp := session.installedApp || r.args.installedApp
  revoked := none
  rotatedFromId := some r.token
  createdAt := created

/-- A token past its grace, one of whose heirs was rotated or logged out. -/
def SessionDb.spent (db : SessionDb) (token : SessionId) (session : Session) : Bool :=
  session.revoked.any (fun v => db.clock > v.revokedAt + refreshReuseGraceMs) &&
    (db.heirs token).any fun q => q.2.revoked.any fun v => v.revokedReason ≠ .lostResponse

def SessionDb.present (db : SessionDb) (args : RotateSessionArgs) : Rotation :=
  match db.sessions.find args.refreshToken.sessionId with
  | none => ⟨args, false, []⟩
  | some session =>
    { args
      spent := db.spent args.refreshToken.sessionId session &&
        config.verifyRefreshSecret args.refreshToken.secret session.refreshTokenHash
      live := db.select (RevokeScope.all session.userId).selects }

def enterSession (db : SessionDb) : SessionRequest → Option SessionCall
  | .login userId userAgent installedApp => some (.inserting userId userAgent installedApp)
  | .rotate args => some (.reading (db.present config args))
  | .revoke scope reason => some (.revoking scope reason none)

def SessionDb.ofUser (db : SessionDb) (token : SessionId) : List SessionId :=
  match db.sessions.find token with
  | none => []
  | some session => db.select fun _ s => s.userId = session.userId

def SessionDb.answer (db : SessionDb) (r : Rotation) (issued : Option SessionId) : SessionDb :=
  { db with answers := ⟨r, issued, db.ofUser r.token⟩ :: db.answers }

def SessionDb.openIssue (db : SessionDb) (tx : Issuing) : SessionDb :=
  { db with issuing := tx :: db.issuing }

def SessionDb.issue (db : SessionDb) (r : Rotation) (tx : Issuing) (revoked : Revocation)
    (heir : Session) : SessionDb :=
  let issued := { db with
    sessions := (db.revoke tx.rows revoked).push heir
    issuing := db.issuing.erase tx }
  issued.answer r (some db.sessions.nextKey)

/-- The request that reuses a token closes all the sessions of its user. -/
def revokeAllAndFlagReuse (r : Rotation) (session : Session) : SessionCall :=
  .revoking (.all session.userId) .refreshReuse (some r)

def Rotation.sameAgent (r : Rotation) (session : Session) : Bool :=
  session.userAgent = r.args.userAgent

def withinGrace (r : Rotation) (session : Session) (now : Instant) : Bool :=
  (session.revoked.any fun v =>
    v.revokedReason = .rotated && now - v.revokedAt ≤ refreshReuseGraceMs) && r.sameAgent session

/-- `recoverLostResponse`, up to the sessions that it will substitute. -/
def recoverLostResponse (db : SessionDb) (r : Rotation) (session : Session) (now : Instant) :
    SessionCall :=
  let heirs := db.heirs r.token
  let rotated := session.revoked.any fun v => v.revokedReason = .rotated
  if !rotated || !r.sameAgent session || heirs.isEmpty ||
      heirs.any (fun q => q.2.revoked.any fun v => v.revokedReason ≠ .lostResponse) then
    revokeAllAndFlagReuse r session
  else .substituting r session ((heirs.filter fun q => q.2.live).map Prod.fst) now

/-- `rotateWithinGraceOrRevoke`, up to its first insertion or change. -/
def rotateWithinGraceOrRevoke (db : SessionDb) (r : Rotation) (session : Session) (now : Instant) :
    SessionDb × Option SessionCall :=
  if withinGrace r session now then
    if (db.heirs r.token).length ≥ 1 + refreshReuseGraceMaxForks then (db.answer r none, none)
    else (db.openIssue ⟨r.token, []⟩, some (.forking r session now))
  else (db, some (recoverLostResponse db r session now))

def rotateRead (db : SessionDb) (r : Rotation) (now : Instant) : SessionDb × Option SessionCall :=
  match db.sessions.find r.token with
  | none => (db.answer r none, none)
  | some session =>
    if !config.verifyRefreshSecret r.args.refreshToken.secret session.refreshTokenHash then
      (db.answer r none, none)
    else if session.expiresAt ≤ now then (db, some (revokeAllAndFlagReuse r session))
    else if session.live then (db, some (.claiming r session now))
    else (db, some (.deciding r session))

def SessionDb.close (db : SessionDb) : RevokeScope → List SessionId
  | .all userId => db.select (fun _ s => s.userId = userId) ++ db.closed
  | _ => db.closed

/-- The commit of an `updateMany` that revokes sessions, the last of a request. -/
def SessionDb.write (db : SessionDb) (scope : RevokeScope) (revoked : Revocation)
    (ids : List SessionId) (after : Option Rotation) : SessionDb :=
  let written := { db with sessions := db.revoke ids revoked, closed := db.close scope }
  match after with
  | some r => written.answer r none
  | none => written

/-- The next statement of a request; `none` while it waits for a row that is held. -/
def stepSession (db : SessionDb) (now : Instant) (secretHash : String) :
    SessionCall → Option (SessionDb × Option SessionCall)
  | .inserting userId userAgent installedApp =>
    let session := loginSession config userId userAgent installedApp now secretHash
    some ({ db with sessions := db.sessions.push session }, none)
  | .reading r => some (rotateRead config db r now)
  | .claiming r session read =>
    if r.token ∈ db.held then none
    else if (db.sessions.find r.token).any Session.live then
      some (db.openIssue ⟨r.token, [r.token]⟩, some (.claimed r session read now))
    else some (db, some (.rereading r session))
  | .claimed r session read created =>
    some (db.issue r ⟨r.token, [r.token]⟩ ⟨read, .rotated⟩
      (heirOf config r session created secretHash), none)
  | .rereading r session =>
    some (db, some (.deciding r ((db.sessions.find r.token).getD session)))
  | .deciding r session => some (rotateWithinGraceOrRevoke db r session now)
  | .forking r session created =>
    some (db.issue r ⟨r.token, []⟩ ⟨now, .rotated⟩
      (heirOf config r session created secretHash), none)
  | .substituting r session live created =>
    if live.any (· ∈ db.held) then none
    else if live.all fun id => (db.sessions.find id).any Session.live then
      some (db.openIssue ⟨r.token, live⟩, some (.replacing r session live now created))
    else
      -- The transaction returns null and commits what it has revoked.
      some ({ db with sessions := db.revoke live ⟨now, .lostResponse⟩ },
        some (revokeAllAndFlagReuse r session))
  | .replacing r session live claimed created =>
    some (db.issue r ⟨r.token, live⟩ ⟨claimed, .lostResponse⟩
      (heirOf config r session created secretHash), none)
  | .revoking scope reason after =>
    some (db, some (.writing scope reason (db.select scope.selects) after))
  | .writing scope reason ids after =>
    if ids.any (· ∈ db.held) then none
    else some (db.write scope ⟨now, reason⟩ ids after, none)

def SessionCall.issuing : SessionCall → Option Issuing
  | .claimed r .. => some ⟨r.token, [r.token]⟩
  | .forking r .. => some ⟨r.token, []⟩
  | .replacing r _ live .. => some ⟨r.token, live⟩
  | _ => none

def failSession (db : SessionDb) (call : SessionCall) : SessionDb :=
  match call.issuing with
  | some tx => { db with issuing := db.issuing.erase tx }
  | none => db

def nextSession (db : SessionDb) (call : SessionCall) :
    SessionInput → Option (SessionDb × Option SessionCall)
  | .proceed now secretHash =>
    if now < db.clock then none else stepSession config { db with clock := now } now secretHash call
  | .fail => some (failSession db call, none)

def sessionSystem : Processes.System SessionDb SessionCall SessionRequest SessionInput where
  enter := enterSession config
  next := nextSession config

end

end StorageOS
