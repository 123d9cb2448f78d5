import StorageOS.Auth.Gates

/-! Every access token passes the gates, and a token sent by e-mail is consumed once, before a newer one of its user,
in the runs where no change overtakes a request between its reads and the token. -/

namespace StorageOS

open Transition Processes

variable {argonVerify : String → String → Bool} {placeholderHash : String} {db db' : AuthDb}
  {call : AuthCall} {rest : Option AuthCall} {now : Instant} {accepted : Bool} {hash : String}

/-! ### Conditions -/

def AuthUser.sameGates (user stored : AuthUser) : Bool :=
  stored.isActive = user.isActive && stored.emailVerifiedAt.isSome = user.emailVerifiedAt.isSome &&
    stored.twoFactorEnabled = user.twoFactorEnabled

def AuthCall.inTurn (db : AuthDb) : AuthCall → Bool
  -- What the request has read is as it was.
  | .emitting userId user tenantId tenant _ =>
    (db.users.find userId).any user.sameGates &&
      (db.tenants.find tenantId).any fun stored => stored.deletedAt = tenant.deletedAt
  -- The same, and the session is that of a login with a second factor if its user has one.
  | .signing sessionId session user =>
    (db.users.find session.userId).any user.sameGates && db.sessions.find sessionId = some session &&
      (!user.twoFactorEnabled || session.secondFactor)
  -- The e-mail verified is that of an active user without a second factor, in a tenant that is not deleted.
  | .verifying userId _ =>
    (db.users.find userId).all fun user => user.isActive && !user.twoFactorEnabled
  | .verified _ _ tenantId => (db.tenants.find tenantId).all fun tenant => tenant.deletedAt.isNone
  -- The user has no other token to use.
  | .creating kind _ userId =>
    (db.tokens kind).rows.values.all fun token => token.userId ≠ userId || token.usedAt.isSome
  | _ => true

def authInTurn (db : AuthDb) (call : AuthCall) : AuthInput → Bool
  | .proceed .. => call.inTurn db
  | .fail => true

/-! ### Tokens sent by e-mail -/

/-- The tokens consumed are used, each once and without a newer one of its user, and a token to use is the
last of its user. -/
structure TokenStore.Sound (store : TokenStore) : Prop where
  used : ∀ c ∈ store.consumed, ∃ token, store.rows.find c.id = some token ∧ token.usedAt ≠ none
  once : (store.consumed.map ConsumedToken.id).Nodup
  last : ∀ c ∈ store.consumed, c.newer = []
  latest : ∀ k token, store.rows.find k = some token → token.usedAt = none →
    ∀ k' token', store.rows.find k' = some token' → token'.userId = token.userId → k' ≤ k

variable {store : TokenStore} {kind : TokenKind} {tenantId : TenantId} {userId : UserId} {id : TokenId}

theorem sound_empty : TokenStore.Sound ⟨.empty, []⟩ where
  used c mem := by cases mem
  once := .nil
  last c mem := by cases mem
  latest k token found := by cases found

theorem TokenStore.Sound.invalidate (sound : store.Sound) : (store.invalidate userId now).Sound where
  used c mem := by
    obtain ⟨token, found, used⟩ := sound.used c mem
    rw [TokenStore.invalidate, Table.find_updateMany, found]
    refine ⟨_, rfl, ?_⟩
    dsimp only
    split
    · exact Option.some_ne_none now
    · exact used
  once := sound.once
  last := sound.last
  latest k token found unused k' token' found' same := by
    rw [TokenStore.invalidate, Table.find_updateMany, Option.map_eq_some_iff] at found found'
    obtain ⟨before, there, rfl⟩ := found
    obtain ⟨before', there', rfl⟩ := found'
    dsimp only at unused same
    split at unused
    · cases unused
    · rename_i kept
      have user : before'.userId = before.userId := by
        rw [if_neg kept] at same
        split at same <;> exact same
      exact sound.latest k before there unused k' before' there' user

theorem TokenStore.Sound.create (sound : store.Sound)
    (unused : ∀ token ∈ store.rows.values, token.userId = userId → token.usedAt ≠ none) :
    (store.create kind tenantId userId hash now).Sound where
  used c mem := by
    obtain ⟨token, found, used⟩ := sound.used c mem
    exact ⟨token, Table.find_push_of_some found _, used⟩
  once := sound.once
  last := sound.last
  latest k token found fresh k' token' found' same := by
    rcases Table.find_push_cases found with found | ⟨rfl, rfl⟩
    · rcases Table.find_push_cases found' with found' | ⟨rfl, rfl⟩
      · exact sound.latest k token found fresh k' token' found' same
      · exact absurd fresh (unused token (Table.mem_values_of_find found) same.symm)
    · rcases Table.find_push_cases found' with found' | ⟨rfl, rfl⟩
      · exact (Table.lt_nextKey (Table.mem_of_find found')).le
      · exact le_rfl

theorem TokenStore.Sound.consume {store' : TokenStore} (sound : store.Sound)
    (done : store.consume id now = some store') : store'.Sound := by
  rw [TokenStore.consume] at done
  split at done
  · cases done
  · rename_i record found
    split at done
    · rename_i unused
      rw [Option.isNone_iff_eq_none] at unused
      cases done
      have fresh : ∀ c ∈ store.consumed, c.id ≠ id := fun c mem same => by
        obtain ⟨token, there, used⟩ := sound.used c mem
        rw [same, found] at there
        cases there
        exact used unused
      refine ⟨fun c mem => ?_, ?_, fun c mem => ?_, fun k token there free k' token' there' same => ?_⟩
      · rcases List.mem_cons.mp mem with rfl | mem
        · exact ⟨_, by rw [Table.find_modify_self, found]; rfl, Option.some_ne_none now⟩
        · obtain ⟨token, there, used⟩ := sound.used c mem
          exact ⟨token, by rw [Table.find_modify_ne _ (fresh c mem)]; exact there, used⟩
      · refine List.nodup_cons.mpr ⟨fun mem => ?_, sound.once⟩
        obtain ⟨c, consumed, same⟩ := List.mem_map.mp mem
        exact fresh c consumed same
      · rcases List.mem_cons.mp mem with rfl | mem
        · refine List.map_eq_nil_iff.mpr (List.filter_eq_nil_iff.mpr fun q there => ?_)
          rw [Bool.and_eq_true, decide_eq_true_eq, decide_eq_true_eq]
          rintro ⟨own, later⟩
          exact absurd (sound.latest id record found unused q.1 q.2 (Table.find_of_mem there) own)
            (not_le.mpr later)
        · exact sound.last c mem
      · rcases Table.find_modify_cases there with ⟨-, before⟩ | ⟨-, _, -, rfl⟩
        · rcases Table.find_modify_cases there' with ⟨-, before'⟩ | ⟨rfl, stored, before', rfl⟩
          · exact sound.latest k token before free k' token' before' same
          · exact sound.latest k token before free k' stored before' same
        · cases free
    · cases done

/-! ### Steps -/

def AuthCall.Checked : AuthCall → Prop
  | .loggingIn _ tenant _ _ => tenant.deletedAt = none
  | .completingFor _ user _ => user.isActive = true ∧ user.emailVerifiedAt.isSome = true
  | .emitting _ user _ tenant secondFactor => user.isActive = true ∧ user.emailVerifiedAt.isSome = true ∧
    (user.twoFactorEnabled = true → secondFactor = true) ∧ tenant.deletedAt = none
  | .signing _ _ user => user.isActive = true ∧ user.emailVerifiedAt.isSome = true
  | .verified _ user _ => user.isActive = true ∧ user.emailVerifiedAt.isSome = true ∧
    user.twoFactorEnabled = false
  | _ => True

def AuthDb.Open (db : AuthDb) : Prop :=
  ∀ k session, db.sessions.find k = some session →
    ∃ tenant, db.tenants.find session.tenantId = some tenant ∧ tenant.deletedAt = none

structure AuthDb.Gated (db : AuthDb) : Prop where
  grants : ∀ g ∈ db.grants, g.allowed = true
  sessions : db.Open
  tokens : ∀ kind, (db.tokens kind).Sound

theorem AuthDb.Gated.setTokens (gated : db.Gated) (sound : store.Sound) :
    (db.setTokens kind store).Gated where
  grants := gated.grants
  sessions := gated.sessions
  tokens kind' := by
    rw [AuthDb.setTokens]
    dsimp only
    split
    · exact sound
    · exact gated.tokens kind'

theorem AuthDb.Gated.setUsers (gated : db.Gated) (users : Table UserId AuthUser) :
    AuthDb.Gated { db with users } := ⟨gated.grants, gated.sessions, gated.tokens⟩

variable {user : AuthUser} {tenant : AuthTenant}

theorem allowed_of_read {secondFactor : Bool} (active : user.isActive = true)
    (verified : user.emailVerifiedAt.isSome = true) (second : user.twoFactorEnabled = true → secondFactor = true)
    (unchanged : (db.users.find userId).any user.sameGates = true) (found : db.tenants.find tenantId = some tenant)
    (live : tenant.deletedAt = none) :
    AccessGrant.allowed ⟨db.users.find userId, db.tenants.find tenantId, secondFactor⟩ = true := by
  obtain ⟨stored, there, same⟩ := (Option.any_eq_true _ _).mp unchanged
  simp only [AuthUser.sameGates, Bool.and_eq_true, decide_eq_true_eq] at same
  obtain ⟨⟨sameActive, sameVerified⟩, sameSecond⟩ := same
  rw [AccessGrant.allowed, there, found, Option.any_some, Option.any_some, sameActive, sameVerified,
    sameSecond, active, verified, live]
  cases enabled : user.twoFactorEnabled
  · rfl
  · rw [second enabled]
    rfl

theorem loginUser_checked {email password : String} {next : AuthCall} (live : tenant.deletedAt = none)
    (done : loginUser argonVerify db tenantId tenant email password = some next) : next.Checked := by
  obtain ⟨⟨userId, user⟩, -, read⟩ := Option.bind_eq_some_iff.mp done
  dsimp only at read
  split at read
  · cases read
  split at read
  · cases read
  rename_i active
  split at read
  · cases read
  rename_i verified
  split at read
  · cases read
  split at read
  · cases read
  rename_i second
  split at read
  · cases read
  cases read
  rw [Option.isNone_iff_eq_none, ← ne_eq, ← Option.isSome_iff_ne_none] at verified
  exact ⟨by simpa using active, verified, fun enabled => absurd enabled second, live⟩

theorem emitAuthSuccess_gated {secondFactor : Bool} (gated : db.Gated)
    (checked : (AuthCall.emitting userId user tenantId tenant secondFactor).Checked)
    (inTurn : (AuthCall.emitting userId user tenantId tenant secondFactor).inTurn db = true) :
    (emitAuthSuccess db userId tenantId secondFactor).Gated := by
  obtain ⟨active, verified, second, live⟩ := checked
  rw [AuthCall.inTurn, Bool.and_eq_true] at inTurn
  obtain ⟨stored, there, same⟩ := (Option.any_eq_true _ _).mp inTurn.2
  rw [decide_eq_true_eq, live] at same
  rw [emitAuthSuccess]
  split
  · refine ⟨fun g mem => ?_, fun k session found => ?_, gated.tokens⟩
    · rcases List.mem_cons.mp mem with rfl | mem
      · exact allowed_of_read active verified second inTurn.1 there same
      · exact gated.grants g mem
    · rcases Table.find_push_cases found with before | ⟨-, rfl⟩
      · exact gated.sessions k session before
      · exact ⟨stored, there, same⟩
  · exact gated

theorem signing_gated {sessionId : SessionId} {session : AuthSession} (gated : db.Gated)
    (checked : (AuthCall.signing sessionId session user).Checked)
    (inTurn : (AuthCall.signing sessionId session user).inTurn db = true) :
    AuthDb.Gated
      { db with
        grants := ⟨db.users.find session.userId, db.tenants.find session.tenantId,
          session.secondFactor⟩ :: db.grants } := by
  rw [AuthCall.inTurn, Bool.and_eq_true, Bool.and_eq_true, decide_eq_true_eq] at inTurn
  obtain ⟨⟨unchanged, there⟩, second⟩ := inTurn
  obtain ⟨tenant, found, live⟩ := gated.sessions sessionId session there
  refine ⟨fun g mem => ?_, gated.sessions, gated.tokens⟩
  rcases List.mem_cons.mp mem with rfl | mem
  · exact allowed_of_read checked.1 checked.2 (fun enabled => by simpa [enabled] using second) unchanged
      found live
  · exact gated.grants g mem

theorem change_gated {c : AccountChange} (gated : db.Gated) : (c.apply placeholderHash db).Gated := by
  cases c with
  | createTenantAccount tenant owner =>
    refine ⟨gated.grants, fun k session found => ?_, gated.tokens⟩
    obtain ⟨stored, there, live⟩ := gated.sessions k session found
    exact ⟨stored, Table.find_push_of_some there _, live⟩
  | acceptInvitation => exact gated.setUsers _
  | setUserActive => exact gated.setUsers _
  | verifyEmailManually => exact gated.setUsers _
  | setupTwoFactor => exact gated.setUsers _
  | enableTwoFactor => exact gated.setUsers _
  | disableTwoFactor => exact gated.setUsers _
  | setSecurity tenantId require =>
    refine ⟨gated.grants, fun k session found => ?_, gated.tokens⟩
    obtain ⟨stored, there, live⟩ := gated.sessions k session found
    by_cases own : session.tenantId = tenantId
    · refine ⟨{ stored with requireTwoFactorForManagers := require }, ?_, live⟩
      rw [AccountChange.apply, own, Table.find_modify_self, ← own, there]
      rfl
    · exact ⟨stored, by rw [AccountChange.apply, Table.find_modify_ne _ own]; exact there, live⟩
  | anonymize tenantId now =>
    refine ⟨gated.grants, fun k session found => ?_, gated.tokens⟩
    rw [AccountChange.apply, Table.find_deleteMany, Option.filter_eq_some_iff] at found
    obtain ⟨before, kept⟩ := found
    obtain ⟨stored, there, live⟩ := gated.sessions k session before
    have other : session.tenantId ≠ tenantId := by simpa using kept
    exact ⟨stored, by rw [AccountChange.apply, Table.find_modify_ne _ other]; exact there, live⟩

theorem stepAuth_gated (gated : db.Gated) (checked : call.Checked) (inTurn : call.inTurn db = true) :
    (stepAuth argonVerify placeholderHash db now accepted hash call).1.Gated := by
  cases call with
  | loggingIn => exact gated
  | challenged => exact gated
  | enrolling =>
    rw [stepAuth]
    split
    · exact gated.setUsers _
    · exact gated
  | completing => exact gated
  | completingFor => exact gated
  | emitting => exact emitAuthSuccess_gated gated checked inTurn
  | rotating sessionId =>
    rw [stepAuth]
    split
    · exact gated
    · rename_i session there
      split
      · refine ⟨gated.grants, fun k session' found => ?_, gated.tokens⟩
        rcases Table.find_push_cases found with before | ⟨-, rfl⟩
        · exact gated.sessions k session' before
        · exact gated.sessions sessionId session' there
      · exact gated
  | refreshing => exact gated
  | signing => exact signing_gated gated checked inTurn
  | consuming id record use =>
    rw [stepAuth]
    split
    · exact gated
    · rename_i store consumed
      exact gated.setTokens ((gated.tokens use.kind).consume consumed)
  | verifying =>
    rw [stepAuth]
    split
    · exact gated
    · exact gated.setUsers _
  | verified => exact gated
  | resetting => exact gated.setUsers _
  | issuing kind => exact gated.setTokens (gated.tokens kind).invalidate
  | creating kind _ userId =>
    refine gated.setTokens ((gated.tokens kind).create fun token mem own used => ?_)
    have row := List.all_eq_true.mp inTurn token mem
    rw [own, used] at row
    simp at row
  | changing => exact change_gated gated

theorem stepAuth_checked {next : AuthCall} (checked : call.Checked) (inTurn : call.inTurn db = true)
    (goesOn : (stepAuth argonVerify placeholderHash db now accepted hash call).2 = some next) :
    next.Checked := by
  cases call with
  | loggingIn => exact loginUser_checked checked goesOn
  | challenged =>
    rw [stepAuth] at goesOn
    split at goesOn <;> cases goesOn
    trivial
  | enrolling =>
    rw [stepAuth] at goesOn
    split at goesOn <;> cases goesOn
    trivial
  | completing =>
    obtain ⟨user, -, read⟩ := Option.bind_eq_some_iff.mp goesOn
    split at read
    · cases read
    · rename_i passes
      cases read
      simp only [Bool.or_eq_true, not_or, Bool.not_eq_true, Bool.not_eq_false',
        Option.isNone_eq_false_iff] at passes
      exact ⟨passes.1.2, passes.2⟩
  | completingFor =>
    obtain ⟨tenant, -, read⟩ := Option.bind_eq_some_iff.mp goesOn
    split at read
    · cases read
    · rename_i live
      cases read
      exact ⟨checked.1, checked.2, fun _ => rfl, by simpa using live⟩
  | emitting => cases goesOn
  | rotating =>
    rw [stepAuth] at goesOn
    split at goesOn
    · cases goesOn
    · split at goesOn <;> cases goesOn
      trivial
  | refreshing =>
    obtain ⟨user, -, read⟩ := Option.bind_eq_some_iff.mp goesOn
    split at read
    · cases read
    · rename_i passes
      cases read
      simp only [Bool.or_eq_true, not_or, Bool.not_eq_true, Bool.not_eq_false',
        Option.isNone_eq_false_iff] at passes
      exact passes
  | signing => cases goesOn
  | consuming id record use =>
    rw [stepAuth] at goesOn
    split at goesOn
    · cases goesOn
    · cases goesOn
      cases use <;> trivial
  | verifying userId =>
    rw [stepAuth] at goesOn
    rw [AuthCall.inTurn] at inTurn
    split at goesOn
    · cases goesOn
    · rename_i user found
      cases goesOn
      rw [found, Option.all_some, Bool.and_eq_true, Bool.not_eq_true'] at inTurn
      exact ⟨inTurn.1, rfl, inTurn.2⟩
  | verified _ _ tenantId =>
    obtain ⟨tenant, found, same⟩ := Option.map_eq_some_iff.mp goesOn
    cases same
    rw [AuthCall.inTurn, found, Option.all_some, Option.isNone_iff_eq_none] at inTurn
    refine ⟨checked.1, checked.2.1, fun enabled => ?_, inTurn⟩
    rw [checked.2.2] at enabled
    cases enabled
  | resetting => cases goesOn
  | issuing =>
    cases goesOn
    trivial
  | creating => cases goesOn
  | changing => cases goesOn

theorem enterAuth_checked {request : AuthRequest} (entered : enterAuth argonVerify db request = some call) :
    call.Checked := by
  cases request with
  | login =>
    obtain ⟨⟨tenantId, tenant⟩, -, read⟩ := Option.bind_eq_some_iff.mp entered
    dsimp only at read
    split at read
    · cases read
    · rename_i live
      cases read
      simpa [AuthCall.Checked] using live
  | challenge =>
    obtain ⟨user, -, read⟩ := Option.bind_eq_some_iff.mp entered
    split at read <;> cases read
    trivial
  | enrolRequiredVerify =>
    obtain ⟨user, -, read⟩ := Option.bind_eq_some_iff.mp entered
    split at read
    · obtain ⟨secret, -, same⟩ := Option.map_eq_some_iff.mp read
      cases same
      trivial
    · cases read
  | refresh =>
    cases entered
    trivial
  | verifyEmail =>
    obtain ⟨record, -, same⟩ := Option.map_eq_some_iff.mp entered
    cases same
    trivial
  | resetPassword =>
    obtain ⟨record, -, same⟩ := Option.map_eq_some_iff.mp entered
    cases same
    trivial
  | resendVerification =>
    obtain ⟨⟨userId, user⟩, -, read⟩ := Option.bind_eq_some_iff.mp entered
    dsimp only at read
    split at read <;> cases read
    trivial
  | sendVerificationEmail =>
    obtain ⟨tenant, -, read⟩ := Option.bind_eq_some_iff.mp entered
    obtain ⟨user, -, same⟩ := Option.map_eq_some_iff.mp read
    cases same
    trivial
  | forgotPassword =>
    obtain ⟨⟨userId, user⟩, -, read⟩ := Option.bind_eq_some_iff.mp entered
    dsimp only at read
    split at read <;> cases read
    trivial
  | change =>
    cases entered
    trivial

theorem nextAuth_gated {input : AuthInput} (gated : db.Gated) (checked : call.Checked)
    (fits : authInTurn db call input = true)
    (made : nextAuth argonVerify placeholderHash db call input = some (db', rest)) :
    db'.Gated ∧ ∀ next, rest = some next → next.Checked := by
  cases input with
  | proceed now accepted hash =>
    have kept : (stepAuth argonVerify placeholderHash db now accepted hash call).1.Gated :=
      stepAuth_gated gated checked fits
    have goesOn : ∀ next, (stepAuth argonVerify placeholderHash db now accepted hash call).2 = some next →
        next.Checked := fun _ => stepAuth_checked checked fits
    rw [show stepAuth argonVerify placeholderHash db now accepted hash call = (db', rest) from
      Option.some.inj made] at kept goesOn
    exact ⟨kept, goesOn⟩
  | fail =>
    cases made
    exact ⟨gated, goesOn_none⟩

/-! ### Runs -/

variable {users : Table UserId AuthUser} {tenants : Table TenantId AuthTenant} {t : State AuthDb AuthCall}

theorem opening_gated : (AuthDb.opening users tenants).Gated where
  grants g mem := by cases mem
  sessions k session found := by cases found
  tokens _ := sound_empty

/-- Every access token signed passes the gates, and every token sent by e-mail is consumed once and before
a newer one. -/
theorem gates_hold
    (run : Run (authSystem argonVerify placeholderHash).step
      (System.admits fun db call input => authInTurn db call input = true)
      ⟨.opening users tenants, []⟩ t) :
    (∀ g ∈ t.db.grants, g.allowed = true) ∧
      ∀ kind, ((t.db.tokens kind).consumed.map ConsumedToken.id).Nodup ∧
        ∀ c ∈ (t.db.tokens kind).consumed, c.newer = [] := by
  have gated : t.db.Gated := (System.invariant (P := AuthDb.Gated) (Q := fun _ call => call.Checked)
    run opening_gated (fun _ mem => by cases mem) (fun _ entered => enterAuth_checked entered) (by
      intro db call input db' rest gated checked fits made
      obtain ⟨kept, goesOn⟩ := nextAuth_gated gated checked fits made
      exact ⟨kept, goesOn, fun _ => id⟩)).1
  exact ⟨gated.grants, fun kind => ⟨(gated.tokens kind).once, (gated.tokens kind).last⟩⟩

def plainVerify (hash secret : String) : Bool := hash = secret

def foundTenant : AuthTenant := ⟨"acme", none, false, true⟩

def manager : AuthUser := ⟨0, "ana@acme.es", "pw", .manager, true, none, false, none, none⟩

def staffed : Table UserId AuthUser := Table.empty.push manager

def rented : Table TenantId AuthTenant := Table.empty.push foundTenant

/-- A user verifies the e-mail, logs in, enables the second factor, passes it and refreshes that session. -/
theorem gates_hold_enrolled : ∃ t : State AuthDb AuthCall, t.db.grants.length = 4 ∧
    (∀ g ∈ t.db.grants, g.allowed = true) ∧
      ∀ kind, ((t.db.tokens kind).consumed.map ConsumedToken.id).Nodup ∧
        ∀ c ∈ (t.db.tokens kind).consumed, c.newer = [] := by
  obtain ⟨t, run, signed⟩ := Run.exists_of_exec (authSystem plainVerify "-").step
    (System.admits fun db call input => authInTurn db call input = true) ⟨.opening staffed rented, []⟩
    [.start (.resendVerification "acme" "ana@acme.es"), .advance 0 (.proceed 1 true "s"),
      .advance 0 (.proceed 1 true "s"), .start (.verifyEmail 0 "s" 2), .advance 0 (.proceed 2 true ""),
      .advance 0 (.proceed 2 true ""), .advance 0 (.proceed 2 true ""), .advance 0 (.proceed 2 true ""),
      .start (.login "acme" "ana@acme.es" "pw"), .advance 0 (.proceed 3 true ""),
      .advance 0 (.proceed 3 true ""), .start (.change (.setupTwoFactor 0 "k")),
      .advance 0 (.proceed 4 true ""), .start (.change (.enableTwoFactor 0)),
      .advance 0 (.proceed 4 true ""), .start (.challenge 0 0), .advance 0 (.proceed 5 true ""),
      .advance 0 (.proceed 5 true ""), .advance 0 (.proceed 5 true ""), .advance 0 (.proceed 5 true ""),
      .start (.refresh 2), .advance 0 (.proceed 6 true ""), .advance 0 (.proceed 6 true ""),
      .advance 0 (.proceed 6 true "")]
    (fun t => t.db.grants.length = 4) (by decide +kernel)
  exact ⟨t, of_decide_eq_true signed, gates_hold run⟩

/-- The link of a verification e-mail opens a session for a user deactivated meanwhile, and of two links
issued at once the older one is consumed after the newer one was issued. -/
theorem gates_bypassed :
    ¬(∀ t, Reaches (authSystem plainVerify "-").step ⟨.opening staffed rented, []⟩ t →
      ∀ g ∈ t.db.grants, g.allowed = true) ∧
    ¬(∀ t, Reaches (authSystem plainVerify "-").step ⟨.opening staffed rented, []⟩ t →
      ∀ c ∈ (t.db.tokens .verification).consumed, c.newer = []) := by
  constructor
  · intro gated
    obtain ⟨t, run, bypassed⟩ := Run.exists_of_exec (authSystem plainVerify "-").step (fun _ _ => True)
      ⟨.opening staffed rented, []⟩
      [.start (.resendVerification "acme" "ana@acme.es"), .advance 0 (.proceed 1 true "s"),
        .advance 0 (.proceed 1 true "s"), .start (.change (.setUserActive 0 false)),
        .advance 0 (.proceed 2 true ""), .start (.verifyEmail 0 "s" 3), .advance 0 (.proceed 3 true ""),
        .advance 0 (.proceed 3 true ""), .advance 0 (.proceed 3 true ""), .advance 0 (.proceed 3 true "")]
      (fun t => t.db.grants.any fun g => !g.allowed) (by decide +kernel)
    obtain ⟨g, mem, refused⟩ := List.any_eq_true.mp bypassed
    rw [gated t run g mem] at refused
    cases refused
  · intro last
    obtain ⟨t, run, older⟩ := Run.exists_of_exec (authSystem plainVerify "-").step (fun _ _ => True)
      ⟨.opening staffed rented, []⟩
      [.start (.resendVerification "acme" "ana@acme.es"),
        .start (.resendVerification "acme" "ana@acme.es"), .advance 0 (.proceed 1 true ""),
        .advance 1 (.proceed 1 true ""), .advance 0 (.proceed 2 true "a"), .advance 0 (.proceed 3 true "b"),
        .start (.verifyEmail 0 "a" 4), .advance 0 (.proceed 4 true "")]
      (fun t => (t.db.tokens .verification).consumed.any fun c => c.newer ≠ []) (by decide +kernel)
    obtain ⟨c, mem, newer⟩ := List.any_eq_true.mp older
    exact of_decide_eq_true newer (last t run c mem)

end StorageOS
