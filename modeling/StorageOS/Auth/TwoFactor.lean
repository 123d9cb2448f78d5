import StorageOS.Auth.Sessions

/-! The second factor of the users (`two-factor/two-factor.service.ts`, `two-factor/totp.service.ts`,
`two-factor/recovery-codes.service.ts`). A challenge counts the recent failures of its user, checks a code and
claims it, and records a failure, each in a statement of its own. -/

namespace StorageOS

open Processes

/-- What the libraries compute: the plain text of an encrypted secret, how many steps of 30 seconds a code is off
at a time (one at most), and whether a text is the one of a hash. -/
structure TwoFactorLibrary where
  decryptString : String → UserId → Option String
  validate : String → String → Instant → Option ℤ
  argonVerify : String → String → Bool

structure TwoFactorUser where
  twoFactorEnabled : Bool
  twoFactorSecretEncrypted : Option String
  twoFactorLastStep : Option ℤ
  deriving DecidableEq

structure RecoveryCode where
  id : ℕ
  userId : UserId
  codeHash : String
  usedAt : Option Instant
  deriving DecidableEq

def twoFactorMaxFailures : ℕ := 5

/-- `TWO_FACTOR_FAILURE_WINDOW_MS`. -/
def twoFactorFailureWindow : ℤ := 15 * 60000

def recoveryCodeCount : ℕ := 10

abbrev RecoveryHashes := { hashes : List String // hashes.length = recoveryCodeCount }

/-- What a challenge came to; a code that is accepted with the first one of the last issue. -/
inductive ChallengeEvent
  | step (userId : UserId) (step : ℤ)
  | code (userId : UserId) (id : ℕ) (issuedFrom : ℕ)
  | wrong (userId : UserId) (moment : Instant)
  deriving DecidableEq

/-- The users, their codes, numbered as they are issued, and the failures in the audit log. The events, last
first, and the first code of each user's last issue are history. -/
structure TwoFactorDb where
  users : Table UserId TwoFactorUser
  codes : List RecoveryCode
  nextCode : ℕ
  failures : List (UserId × Instant)
  events : List ChallengeEvent
  lastIssue : UserId → ℕ
  clock : Instant

/-- `Challenge2faInput` and `Disable2faInput`. -/
structure SecondFactorInput where
  code : Option String
  recoveryCode : Option String
  deriving DecidableEq

/-- What `\s` matches. -/
def isJsSpace (c : Char) : Bool :=
  (9 ≤ c.toNat && c.toNat ≤ 13) || (0x2000 ≤ c.toNat && c.toNat ≤ 0x200A) ||
    c.toNat ∈ [0x20, 0xA0, 0x1680, 0x2028, 0x2029, 0x202F, 0x205F, 0x3000, 0xFEFF]

/-- `normalize` of a recovery code, which the request's schema has put in capitals. -/
def normalizeRecoveryCode (code : String) : String :=
  String.ofList ((code.toList.filter fun c => !(isJsSpace c || c = '-')).map Char.toUpper)

/-- `matchStep`: the step of 30 seconds of a code of six digits. -/
def matchStep (lib : TwoFactorLibrary) (secret code : String) (now : Instant) : Option ℤ :=
  let normalized := code.toList.filter fun c => !isJsSpace c
  if normalized.length = 6 ∧ normalized.all Char.isDigit then
    (lib.validate secret (String.ofList normalized) now).map fun delta => now / 30000 + delta
  else none

def TwoFactorDb.recentFailures (db : TwoFactorDb) (userId : UserId) (now : Instant) : ℕ :=
  db.failures.countP fun row => row.1 = userId && now - twoFactorFailureWindow ≤ row.2

inductive TwoFactorRequest
  | challenge (userId : UserId) (input : SecondFactorInput)
  | disable (userId : UserId) (input : SecondFactorInput)
  | regenerateRecoveryCodes (userId : UserId) (hashes : RecoveryHashes)
  | verify (userId : UserId) (hashes : RecoveryHashes) (secret : String)

/-- A request under way. A check is for a challenge, with the failures that it has counted, or to disable the
second factor. -/
inductive TwoFactorCall
  | counting (userId : UserId) (encryptedSecret : String) (input : SecondFactorInput)
  | matching (userId : UserId) (encryptedSecret : String) (input : SecondFactorInput) (counted : Option ℕ)
  | claiming (userId : UserId) (step : ℤ) (counted : ℕ)
  | consuming (userId : UserId) (candidates : List ℕ) (counted : Option ℕ)
  | recording (userId : UserId)
  | issuing (userId : UserId) (hashes : RecoveryHashes) (secret : Option String)
  | enabling (userId : UserId) (secret : String)
  | unsetting (userId : UserId)
  | clearing (userId : UserId)
  deriving DecidableEq

/-- When a step is made, whether the request ends there instead, and whether a row of the audit log is lost. -/
structure TwoFactorInput where
  moment : Instant
  stops : Bool
  lost : Bool
  deriving DecidableEq

/-- The user that a request reads when it arrives. The tokens and passwords that it takes are checked there. -/
def enterTwoFactor (db : TwoFactorDb) : TwoFactorRequest → Option TwoFactorCall
  | .challenge userId input => do
    let user ← (db.users.find userId).filter (·.twoFactorEnabled)
    return .counting userId (← user.twoFactorSecretEncrypted) input
  | .disable userId input => do
    let user ← (db.users.find userId).filter (·.twoFactorEnabled)
    return .matching userId (← user.twoFactorSecretEncrypted) input none
  | .regenerateRecoveryCodes userId hashes => do
    let user ← (db.users.find userId).filter (·.twoFactorEnabled)
    let _ ← user.twoFactorSecretEncrypted
    return .issuing userId hashes none
  | .verify userId hashes secret => do
    let _ ← (db.users.find userId).filter fun user => !user.twoFactorEnabled
    return .issuing userId hashes (some secret)

def TwoFactorDb.fail (db : TwoFactorDb) (userId : UserId) :
    Option ℕ → TwoFactorDb × Option TwoFactorCall
  | none => (db, none)
  | some _ => ({ db with events := .wrong userId db.clock :: db.events }, some (.recording userId))

/-- The marks of `consume`. -/
def TwoFactorDb.markUsed (db : TwoFactorDb) (id : ℕ) : List RecoveryCode :=
  db.codes.map fun row => if row.id = id ∧ row.usedAt = none then { row with usedAt := some db.clock } else row

/-- `issueForUser`, one transaction. -/
def TwoFactorDb.issueForUser (db : TwoFactorDb) (userId : UserId) (hashes : RecoveryHashes) : TwoFactorDb :=
  { db with
    codes := db.codes.filter (fun row => row.userId ≠ userId) ++
      hashes.val.zipIdx.map fun p => ⟨db.nextCode + p.2, userId, p.1, none⟩
    nextCode := db.nextCode + recoveryCodeCount
    lastIssue := Function.update db.lastIssue userId db.nextCode }

def runTwoFactor (lib : TwoFactorLibrary) (db : TwoFactorDb) (lost : Bool) :
    TwoFactorCall → TwoFactorDb × Option TwoFactorCall
  | .counting userId secret input =>
    let recentFailures := db.recentFailures userId db.clock
    if recentFailures ≥ twoFactorMaxFailures then (db, none)
    else (db, some (.matching userId secret input (some recentFailures)))
  | .matching userId encryptedSecret input counted =>
    match input.recoveryCode, input.code with
    -- The codes of the user that are not used; those that do not match are passed by.
    | some recoveryCode, _ => (db, some (.consuming userId ((db.codes.filter fun row =>
        row.userId = userId && row.usedAt = none &&
          lib.argonVerify row.codeHash (normalizeRecoveryCode recoveryCode)).map RecoveryCode.id) counted))
    | none, none => db.fail userId counted
    | none, some code =>
      match (lib.decryptString encryptedSecret userId).bind fun secret => matchStep lib secret code db.clock,
        counted with
      | none, _ => db.fail userId counted
      | some step, some counted => (db, some (.claiming userId step counted))
      | some _, none => (db, some (.unsetting userId))
  | .claiming userId step counted =>
    if (db.users.find userId).any fun user => user.twoFactorLastStep.all (· < step) then
      ({ db with
        users := db.users.modify userId fun user => { user with twoFactorLastStep := some step }
        events := .step userId step :: db.events }, none)
    else db.fail userId (some counted)
  | .consuming userId [] counted => db.fail userId counted
  | .consuming userId (id :: rest) counted =>
    if db.codes.any fun row => row.id = id && row.usedAt = none then
      match counted with
      | some _ => ({ db with
          codes := db.markUsed id
          events := .code userId id (db.lastIssue userId) :: db.events }, none)
      | none => ({ db with codes := db.markUsed id }, some (.unsetting userId))
    else (db, some (.consuming userId rest counted))
  -- `AuditService.write` does not raise what goes wrong.
  | .recording userId =>
    (if lost then db else { db with failures := db.failures ++ [(userId, db.clock)] }, none)
  | .issuing userId hashes secret => (db.issueForUser userId hashes, secret.map (.enabling userId))
  | .enabling userId secret =>
    ({ db with users := db.users.modify userId fun user =>
        { user with twoFactorEnabled := true, twoFactorSecretEncrypted := some secret } }, none)
  | .unsetting userId =>
    ({ db with users := db.users.modify userId fun user =>
        { user with twoFactorEnabled := false, twoFactorSecretEncrypted := none } }, some (.clearing userId))
  | .clearing userId => ({ db with codes := db.codes.filter fun row => row.userId ≠ userId }, none)

def stepTwoFactor (lib : TwoFactorLibrary) (db : TwoFactorDb) (call : TwoFactorCall) (input : TwoFactorInput) :
    Option (TwoFactorDb × Option TwoFactorCall) :=
  if input.moment < db.clock then none
  else
    let db := { db with clock := input.moment }
    if input.stops then some (db, none) else some (runTwoFactor lib db input.lost call)

def twoFactorSystem (lib : TwoFactorLibrary) :
    System TwoFactorDb TwoFactorCall TwoFactorRequest TwoFactorInput where
  enter := enterTwoFactor
  next := stepTwoFactor lib

end StorageOS
