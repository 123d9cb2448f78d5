import StorageOS.Auth.SessionSteps

/-! The detection of a reused refresh token. A token past its grace, one of whose heirs was rotated or logged out,
yields no session and revokes those of its user; the heirs that a token has in its grace are bounded. -/

namespace StorageOS

open Transition Processes

variable {config : SessionsConfig} {db db' : SessionDb} {call : SessionCall} {now : Instant}
  {secretHash : String} {rest : Option SessionCall}

def SessionDb.Revoked (db : SessionDb) (ids : List SessionId) : Prop :=
  ∀ id ∈ ids, ∃ s v, db.sessions.find id = some s ∧ s.revoked = some v

variable {ids : List SessionId} {r : Rotation} {v : Revocation} {input : SessionInput} {heir : Session}

theorem SessionDb.Revoked.follow (revoked : db.Revoked ids) (follows : db.Follows db') : db'.Revoked ids := by
  intro id mem
  obtain ⟨s, v, found, was⟩ := revoked id mem
  obtain ⟨s', found', becomes⟩ := follows.sessions id s found
  exact ⟨s', v, found', becomes.revoked v was⟩

theorem SessionDb.Reads.revoked {session q : Session} (reads : db.Reads r session)
    (found : db.sessions.find r.token = some q) (revoked : session.revoked = some v) :
    q.revoked = some v := by
  obtain ⟨stored, found', becomes⟩ := reads
  rw [found] at found'
  cases found'
  exact becomes.revoked v revoked

/-! ### Reused tokens -/

/-- A presented token is past its grace, one of its heirs was rotated or logged out, and the sessions
found live are those of its user. -/
structure SessionDb.Reused (config : SessionsConfig) (db : SessionDb) (r : Rotation) : Prop where
  past : ∃ q v, db.sessions.find r.token = some q ∧ q.revoked = some v ∧
    v.revokedAt + refreshReuseGraceMs < db.clock ∧
    config.verifyRefreshSecret r.args.refreshToken.secret q.refreshTokenHash = true ∧
    ∀ id ∈ r.live, ∃ s, db.sessions.find id = some s ∧ s.userId = q.userId
  used : ∃ id s v, db.sessions.find id = some s ∧ s.rotatedFromId = some r.token ∧
    s.revoked = some v ∧ v.revokedReason ≠ .lostResponse

theorem Session.Becomes.hash {s s' : Session} (h : s.Becomes s') :
    s'.refreshTokenHash = s.refreshTokenHash := by
  have same := congrArg Session.refreshTokenHash h.same
  exact same

theorem SessionDb.Reused.follow (reused : db.Reused config r) (follows : db.Follows db') : db'.Reused config r := by
  constructor
  · obtain ⟨q, v, found, revoked, past, verified, live⟩ := reused.past
    obtain ⟨q', found', becomes⟩ := follows.sessions _ q found
    refine ⟨q', v, found', becomes.revoked v revoked, past.trans_le follows.clock,
      becomes.hash ▸ verified, fun id mem => ?_⟩
    obtain ⟨s, there, user⟩ := live id mem
    obtain ⟨s', there', same⟩ := follows.sessions id s there
    exact ⟨s', there', same.user.trans (user.trans becomes.user.symm)⟩
  · obtain ⟨id, s, v, found, parent, revoked, reason⟩ := reused.used
    obtain ⟨s', found', becomes⟩ := follows.sessions id s found
    exact ⟨id, s', v, found', becomes.parent.trans parent, becomes.revoked v revoked, reason⟩

theorem present_reused {args : RotateSessionArgs} (spent : (db.present config args).spent = true) :
    db.Reused config (db.present config args) := by
  unfold SessionDb.present at spent ⊢
  split at spent
  · cases spent
  · rename_i session found
    obtain ⟨spent, verified⟩ := Bool.and_eq_true_iff.mp spent
    obtain ⟨past, used⟩ := Bool.and_eq_true_iff.mp spent
    obtain ⟨v, revoked, past⟩ := (Option.any_eq_true _ _).mp past
    obtain ⟨q, mem, used⟩ := List.any_eq_true.mp used
    obtain ⟨w, given, reason⟩ := (Option.any_eq_true _ _).mp used
    obtain ⟨foundHeir, parent⟩ := mem_heirs.mp mem
    refine ⟨⟨session, v, found, revoked, of_decide_eq_true past, verified, fun id mem => ?_⟩,
      ⟨q.1, q.2, w, foundHeir, parent, given, by simpa using reason⟩⟩
    obtain ⟨s, there, chosen⟩ := mem_select.mp mem
    simp only [RevokeScope.selects, Bool.and_eq_true, decide_eq_true_eq] at chosen
    exact ⟨s, there, chosen.1⟩

theorem SessionDb.Reused.past_grace {session : Session} (reused : db.Reused config r) (reads : db.Reads r session)
    (later : db.clock ≤ now) : withinGrace r session now = false := by
  refine Bool.eq_false_iff.mpr fun grace => ?_
  obtain ⟨q, v, found, revoked, past, -⟩ := reused.past
  obtain ⟨w, read, h⟩ := (Option.any_eq_true _ _).mp (Bool.and_eq_true_iff.mp grace).1
  have same := reads.revoked found read
  rw [revoked] at same
  cases same
  have recent := of_decide_eq_true (Bool.and_eq_true_iff.mp h).2
  lia

def SessionDb.Closes (db : SessionDb) (r : Rotation) (scope : RevokeScope) : Prop :=
  ∃ q, db.sessions.find r.token = some q ∧ scope = .all q.userId

theorem SessionDb.Closes.follow {scope : RevokeScope} (closes : db.Closes r scope) (follows : db.Follows db') :
    db'.Closes r scope := by
  obtain ⟨q, found, rfl⟩ := closes
  obtain ⟨q', found', becomes⟩ := follows.sessions _ q found
  exact ⟨q', found', by rw [becomes.user]⟩

/-- What is under way for a reused token: it is read revoked and closes the sessions of its user. -/
def SessionCall.Detecting (config : SessionsConfig) (db : SessionDb) : SessionCall → Prop
  | .reading r => r.spent = true → db.Reused config r
  | .deciding r session => r.spent = true →
    db.Reused config r ∧ db.Reads r session
  | .claiming r .. | .claimed r .. | .rereading r _ | .forking r .. | .substituting r ..
  | .replacing r .. => r.spent = false
  | .revoking scope _ (some r) => r.spent = true → db.Reused config r ∧ db.Closes r scope
  | .writing scope _ ids (some r) => r.spent = true →
    db.Reused config r ∧ db.Closes r scope ∧
      ∀ id ∈ r.live, id ∈ ids ∨ ∃ s v, db.sessions.find id = some s ∧ s.revoked = some v
  | .inserting .. | .revoking _ _ none | .writing _ _ _ none => True

theorem SessionCall.Detecting.follow (detecting : call.Detecting config db)
    (follows : db.Follows db') : call.Detecting config db' := by
  cases call with
  | inserting => trivial
  | reading r => exact fun spent => (detecting spent).follow follows
  | deciding r session =>
    intro spent
    exact ⟨(detecting spent).1.follow follows, (detecting spent).2.follow follows⟩
  | revoking scope reason after =>
    cases after with
    | none => trivial
    | some r => exact fun spent => ⟨(detecting spent).1.follow follows, (detecting spent).2.follow follows⟩
  | writing scope reason ids after =>
    cases after with
    | none => trivial
    | some r =>
      intro spent
      obtain ⟨reused, closes, covers⟩ := detecting spent
      refine ⟨reused.follow follows, closes.follow follows, fun id mem => ?_⟩
      rcases covers id mem with listed | ⟨s, v, found, revoked⟩
      · exact .inl listed
      · obtain ⟨s', found', becomes⟩ := follows.sessions id s found
        exact .inr ⟨s', v, found', becomes.revoked v revoked⟩
  | _ => exact detecting

theorem enterSession_detecting {request : SessionRequest}
    (h : enterSession config db request = some call) : call.Detecting config db := by
  cases request with
  | login | revoke =>
    cases h
    trivial
  | rotate args =>
    cases h
    exact present_reused

variable {call' : SessionCall} {a : RotationAnswer}

theorem SessionMove.detecting (move : SessionMove config db now secretHash call db' (some call'))
    (later : db.clock ≤ now) (detecting : call.Detecting config db) : call'.Detecting config db' := by
  have follows := move.follows
  cases move with
  | @expires r session found =>
    exact fun spent => ⟨detecting spent, session, found, rfl⟩
  | @finds r session found live =>
    refine Bool.eq_false_iff.mpr fun spent => ?_
    obtain ⟨q, v, found', revoked, -⟩ := (detecting spent).past
    rw [found] at found'
    cases found'
    rw [Session.live_iff.mp live] at revoked
    cases revoked
  | @findsRevoked r session found =>
    exact fun spent => ⟨detecting spent, session, found, .refl _⟩
  | claims | claimsHeirs => exact detecting
  | loses => exact detecting
  | @rereads r session =>
    intro spent
    rw [show r.spent = false from detecting] at spent
    cases spent
  | @forks r session grace =>
    refine Bool.eq_false_iff.mpr fun spent => ?_
    obtain ⟨reused, reads⟩ := detecting spent
    rw [reused.past_grace reads later] at grace
    cases grace
  | @flags r session =>
    intro spent
    obtain ⟨reused, q, found, becomes⟩ := detecting spent
    exact ⟨reused, q, found, by rw [becomes.user]⟩
  | @recovers r session v past revoked rotated same unused =>
    refine Bool.eq_false_iff.mpr fun spent => ?_
    obtain ⟨id, s, w, found, parent, given, reason⟩ := (detecting spent).1.used
    exact reason (unused (id, s) (mem_heirs.mpr ⟨found, parent⟩) w given)
  | @losesHeirs r session live created free =>
    intro spent
    rw [show r.spent = false from detecting] at spent
    cases spent
  | @scans scope reason after =>
    cases after with
    | none => trivial
    | some r =>
      intro spent
      obtain ⟨reused, q, found, rfl⟩ := detecting spent
      refine ⟨reused, ⟨q, found, rfl⟩, fun id mem => ?_⟩
      obtain ⟨q', v, found', -, -, -, ofUser⟩ := reused.past
      rw [found] at found'
      cases found'
      obtain ⟨s, there, user⟩ := ofUser id mem
      cases revoked : s.revoked with
      | some w => exact .inr ⟨s, w, there, revoked⟩
      | none =>
        refine .inl (mem_select.mpr ⟨s, there, ?_⟩)
        simp [RevokeScope.selects, user, Session.live, revoked]

/-! ### Answers -/

/-- Every live session of a user is among those that the statement chose. -/
def revokesAll (db : SessionDb) : SessionCall → SessionInput → Bool
  | .writing (.all userId) _ ids _, .proceed _ _ =>
    (db.select (RevokeScope.all userId).selects).all (· ∈ ids)
  | _, _ => true

theorem revokesAll_clock (db : SessionDb) (now : Instant) (call : SessionCall)
    (input : SessionInput) :
    revokesAll { db with clock := now } call input = revokesAll db call input := by
  cases call with
  | writing scope reason ids after => cases scope <;> cases input <;> rfl
  | _ => cases input <;> rfl

theorem revoke_all {userId : UserId}
    (all : ∀ id s, db.sessions.find id = some s → s.userId = userId → s.live = true → id ∈ ids) {id : SessionId}
    {s : Session} (found : (db.revoke ids v).find id = some s) (user : s.userId = userId) :
    ∃ w, s.revoked = some w := by
  rcases revoke_cases found with same | ⟨s₀, -, -, -, rfl⟩
  · cases revoked : s.revoked with
    | some w => exact ⟨w, rfl⟩
    | none =>
      obtain ⟨w, given⟩ :=
        revoked_revoke (all id s same user (Session.live_iff.mpr revoked)) found
      rw [revoked] at given
      cases given
  · exact ⟨v, rfl⟩

/-- What the answers say of reused tokens: no session, and those of the user found live are revoked. -/
def SessionDb.Detected (db : SessionDb) : Prop :=
  ∀ a ∈ db.answers, a.rotation.spent = true → a.issued = none ∧ db.Revoked a.rotation.live

/-- All the sessions that the user of a reused token had at the end are revoked. -/
def SessionDb.DetectedAll (db : SessionDb) : Prop :=
  ∀ a ∈ db.answers, a.rotation.spent = true → db.Revoked a.sessions

theorem mem_ofUser {token id : SessionId} (mem : id ∈ db.ofUser token) :
    ∃ q s, db.sessions.find token = some q ∧ db.sessions.find id = some s ∧
      s.userId = q.userId := by
  unfold SessionDb.ofUser at mem
  split at mem
  · cases mem
  · rename_i q found
    obtain ⟨s, foundSession, user⟩ := mem_select.mp mem
    exact ⟨q, s, found, foundSession, of_decide_eq_true user⟩

theorem SessionMove.answered (move : SessionMove config db now secretHash call db' rest) (later : db.clock ≤ now)
    (detecting : call.Detecting config db) (mem : a ∈ db'.answers) (spent : a.rotation.spent = true) :
    a ∈ db.answers ∨ a.issued = none ∧ db'.Revoked a.rotation.live ∧
      (revokesAll db call (.proceed now secretHash) = true → db'.Revoked a.sessions) := by
  have follows := move.follows
  cases move with
  | @refuses r unverified =>
    rcases List.mem_cons.mp mem with rfl | mem
    · obtain ⟨q, v, found, -, -, verified, -⟩ := (detecting spent).past
      rw [unverified q found] at verified
      cases verified
    · exact .inl mem
  | @caps r session grace =>
    rcases List.mem_cons.mp mem with rfl | mem
    · obtain ⟨reused, reads⟩ := detecting spent
      rw [reused.past_grace reads later] at grace
      cases grace
    · exact .inl mem
  | issuesFirst | issuesFork | issuesReplacement =>
    rcases List.mem_cons.mp mem with rfl | mem
    · rw [show Rotation.spent _ = false from detecting] at spent
      cases spent
    · exact .inl mem
  | @writes scope reason ids after free =>
    cases after with
    | none => exact .inl mem
    | some r =>
      rcases List.mem_cons.mp mem with rfl | mem
      · obtain ⟨reused, ⟨q, found, rfl⟩, covers⟩ := detecting spent
        refine .inr ⟨rfl, fun id there => ?_, fun all id there => ?_⟩
        · rcases covers id there with listed | ⟨s, v, foundSession, revoked⟩
          · obtain ⟨_, _, -, -, -, -, ofUser⟩ := reused.past
            obtain ⟨s, foundSession, -⟩ := ofUser id there
            obtain ⟨s', found', -⟩ := becomes_revoke ids ⟨now, reason⟩ foundSession
            obtain ⟨w, revoked⟩ := revoked_revoke listed found'
            exact ⟨s', w, found', revoked⟩
          · obtain ⟨s', found', becomes⟩ := follows.sessions id s foundSession
            exact ⟨s', v, found', becomes.revoked v revoked⟩
        · obtain ⟨q', s, foundToken, foundSession, user⟩ := mem_ofUser there
          obtain ⟨q'', found', becomes⟩ := becomes_revoke ids ⟨now, reason⟩ found
          have same : q'' = q' := Option.some.inj (found'.symm.trans foundToken)
          subst same
          have chosen : ∀ id s, db.sessions.find id = some s → s.userId = q.userId →
              s.live = true → id ∈ ids := by
            intro id s stored ofUser live
            have listed := mem_select.mpr ⟨s, stored, show
              (RevokeScope.all q.userId).selects id s = true by
                simp [RevokeScope.selects, ofUser, live]⟩
            simpa using List.all_eq_true.mp all id listed
          obtain ⟨w, revoked⟩ := revoke_all chosen foundSession (user.trans becomes.user)
          exact ⟨s, w, foundSession, revoked⟩
      · exact .inl mem
  | _ => exact .inl mem

theorem nextSession_detecting (detecting : call.Detecting config db)
    (h : nextSession config db call input = some (db', some call')) :
    call'.Detecting config db' := by
  rcases nextSession_move h with ⟨now, secretHash, -, later, move⟩ | ⟨-, none_⟩
  · have timed : db.Follows { db with clock := now } := .of_same later rfl rfl
    exact move.detecting le_rfl (detecting.follow timed)
  · cases none_

theorem nextSession_answered (detecting : call.Detecting config db)
    (h : nextSession config db call input = some (db', rest)) (mem : a ∈ db'.answers)
    (spent : a.rotation.spent = true) :
    a ∈ db.answers ∨ a.issued = none ∧ db'.Revoked a.rotation.live ∧
      (revokesAll db call input = true → db'.Revoked a.sessions) := by
  rcases nextSession_move h with ⟨now, secretHash, rfl, later, move⟩ | ⟨rfl, -⟩
  · have timed : db.Follows { db with clock := now } := .of_same later rfl rfl
    rw [← revokesAll_clock db now]
    exact move.answered le_rfl (detecting.follow timed) mem spent
  · refine .inl ?_
    rw [failSession] at mem
    split at mem <;> exact mem

theorem nextSession_detected (detected : db.Detected) (detecting : call.Detecting config db)
    (h : nextSession config db call input = some (db', rest)) : db'.Detected := by
  intro a mem spent
  rcases nextSession_answered detecting h mem spent with before | ⟨issued, revoked, -⟩
  · have kept := detected a before spent
    exact ⟨kept.1, kept.2.follow (nextSession_follows h)⟩
  · exact ⟨issued, revoked⟩

theorem nextSession_detectedAll (detected : db.DetectedAll) (detecting : call.Detecting config db)
    (fits : revokesAll db call input = true) (h : nextSession config db call input = some (db', rest)) :
    db'.DetectedAll := by
  intro a mem spent
  rcases nextSession_answered detecting h mem spent with before | ⟨-, -, revoked⟩
  · exact (detected a before spent).follow (nextSession_follows h)
  · exact revoked fits

/-! ### Heirs in the grace -/

def SessionDb.revocation (db : SessionDb) (token : SessionId) : Option Revocation :=
  (db.sessions.find token).bind Session.revoked

def SessionDb.graceHeirs (db : SessionDb) (token : SessionId) : List (SessionId × Session) :=
  (db.heirs token).filter fun q => (db.revocation token).any fun v =>
    q.2.createdAt ≤ v.revokedAt + refreshReuseGraceMs

def SessionDb.Bounded (db : SessionDb) : Prop :=
  ∀ token, ((db.graceHeirs token).length : ℤ) ≤ 1 + refreshReuseGraceMaxForks

/-- A fork is inserted while its token has fewer heirs than the bound. -/
def forkFits (db : SessionDb) : SessionCall → SessionInput → Bool
  | .forking r .., .proceed _ _ => (db.heirs r.token).length < 1 + refreshReuseGraceMaxForks
  | _, _ => true

theorem graceHeirs_of_live (token : SessionId) (none_ : db.revocation token = none) :
    db.graceHeirs token = [] := by
  rw [SessionDb.graceHeirs, none_]
  simp

theorem length_heirs_revoke (token : SessionId) (sessions : db'.sessions = db.revoke ids v) :
    (db'.heirs token).length = (db.heirs token).length := by
  rw [SessionDb.heirs, SessionDb.heirs, sessions]
  exact Table.length_filter_updateMany _ _ _ fun _ => rfl

theorem graceHeirs_revoke (sound : db.Sound) (token : SessionId) (sessions : db'.sessions = db.revoke ids v) :
    (db'.graceHeirs token).length ≤ (db.graceHeirs token).length := by
  cases found : db.sessions.find token with
  | none =>
    have gone : db'.revocation token = none := by
      rw [SessionDb.revocation, sessions, find_revoke, found]
      rfl
    rw [graceHeirs_of_live token gone]
    exact Nat.zero_le _
  | some q =>
    cases revoked : q.revoked with
    | none =>
      have childless := sound.no_heirs found (Session.live_iff.mpr revoked)
      have none_ : db'.heirs token = [] := by
        rw [← List.length_eq_zero_iff, length_heirs_revoke token sessions, childless]
        rfl
      rw [SessionDb.graceHeirs, none_]
      exact Nat.zero_le _
    | some w =>
      have kept : db'.revocation token = db.revocation token := by
        rw [SessionDb.revocation, SessionDb.revocation, sessions, find_revoke, found]
        simp [Session.live, revoked]
      rw [SessionDb.graceHeirs, SessionDb.graceHeirs, SessionDb.heirs, SessionDb.heirs,
        List.filter_filter, List.filter_filter, kept, sessions]
      exact (Table.length_filter_updateMany _ _ _ fun _ => rfl).le

theorem revocation_push (token : SessionId) (sessions : db'.sessions = db.sessions.push heir)
    (fresh : heir.revoked = none) :
    db'.revocation token = db.revocation token := by
  rw [SessionDb.revocation, SessionDb.revocation, sessions, Table.find_push]
  split
  · rename_i new
    rw [new, Table.find_nextKey]
    exact fresh
  · rfl

theorem graceHeirs_push (token : SessionId) (sessions : db'.sessions = db.sessions.push heir)
    (fresh : heir.revoked = none) :
    db'.graceHeirs token = db.graceHeirs token ++
      if heir.rotatedFromId = some token ∧ ∃ v, db.revocation token = some v ∧
        heir.createdAt ≤ v.revokedAt + refreshReuseGraceMs then
        [(db.sessions.nextKey, heir)] else [] := by
  have heirs : db'.heirs token = db.heirs token ++
      if heir.rotatedFromId = some token then [(db.sessions.nextKey, heir)] else [] := by
    rw [SessionDb.heirs, SessionDb.heirs, sessions, Table.rows_push, List.filter_append]
    by_cases own : heir.rotatedFromId = some token <;> simp [own]
  rw [SessionDb.graceHeirs, SessionDb.graceHeirs, heirs, revocation_push token sessions fresh,
    List.filter_append]
  congr 1
  by_cases own : heir.rotatedFromId = some token
  · cases db.revocation token <;> simp [own, List.filter_cons]
  · simp [own]

/-- The heirs that a token has in its grace stay in the bound when a session is added that does not come
from it in its grace, or the first ones. -/
theorem SessionDb.Bounded.push (bounded : db.Bounded) (sessions : db'.sessions = db.sessions.push heir)
    (fresh : heir.revoked = none)
    (fits : ∀ token v, heir.rotatedFromId = some token → db.revocation token = some v →
      heir.createdAt ≤ v.revokedAt + refreshReuseGraceMs →
      ((db.graceHeirs token).length : ℤ) < 1 + refreshReuseGraceMaxForks) : db'.Bounded := by
  intro token
  have kept := bounded token
  rw [graceHeirs_push token sessions fresh]
  split
  · rename_i counted
    obtain ⟨parent, v, revoked, recent⟩ := counted
    have few := fits token v parent revoked recent
    rw [List.length_append, List.length_singleton]
    push_cast
    omega
  · rwa [List.append_nil]

theorem SessionDb.Bounded.revoke (bounded : db.Bounded) (sound : db.Sound) (sessions : db'.sessions = db.revoke ids v) :
    db'.Bounded := by
  intro token
  have fewer := graceHeirs_revoke sound token sessions
  have kept := bounded token
  omega

/-- The statement that issues a session, for a token with few heirs or past its grace. -/
theorem SessionDb.Bounded.issue (bounded : db.Bounded) (sound : db.Sound) {tx : Issuing} (fresh : heir.revoked = none)
    (parent : heir.rotatedFromId = some r.token)
    (fits : ((db.heirs r.token).length : ℤ) < 1 + refreshReuseGraceMaxForks ∨
      ∃ w, db.revocation r.token = some w ∧ w.revokedAt + refreshReuseGraceMs < heir.createdAt) :
    (db.issue r tx v heir).Bounded := by
  let left : SessionDb := { db with sessions := db.revoke tx.rows v }
  have leaves : left.sessions = db.revoke tx.rows v := rfl
  refine (bounded.revoke sound leaves).push (issue_sessions r tx v heir) fresh ?_
  intro token w from_ revoked recent
  rw [parent] at from_
  cases from_
  rcases fits with few | ⟨w', past, late⟩
  · have fewer : (left.graceHeirs r.token).length ≤ (left.heirs r.token).length :=
      List.length_filter_le _ _
    rw [length_heirs_revoke r.token leaves] at fewer
    omega
  · obtain ⟨q, found, given⟩ := Option.bind_eq_some_iff.mp past
    obtain ⟨q', found', becomes⟩ := becomes_revoke tx.rows v found
    have same : left.revocation r.token = some w' := by
      rw [SessionDb.revocation, leaves, found']
      exact becomes.revoked w' given
    rw [revoked] at same
    cases same
    lia

theorem SessionMove.bounded (move : SessionMove config db now secretHash call db' rest)
    (bounded : db.Bounded) (sound : db.Sound) (called : call.Sound db)
    (opened : ∀ tx, call.issuing = some tx → tx ∈ db.issuing)
    (fits : forkFits db call (.proceed now secretHash) = true) : db'.Bounded := by
  cases move with
  | inserts => exact bounded.push rfl rfl nofun
  | losesHeirs => exact bounded.revoke sound rfl
  | writes => exact bounded.revoke sound (write_sessions _ _ _ _)
  | @issuesFirst r session read created =>
    refine bounded.issue sound rfl rfl (.inl ?_)
    obtain ⟨q, found, live⟩ :=
      sound.live r.token (List.mem_flatMap.mpr ⟨_, opened _ rfl, by simp⟩)
    rw [sound.no_heirs found live]
    decide
  | issuesFork =>
    exact bounded.issue sound rfl rfl (.inl (of_decide_eq_true fits))
  | @issuesReplacement r session live claimed created =>
    obtain ⟨w, revoked, -, late⟩ := called.past
    obtain ⟨q, found, becomes⟩ := called.reads
    refine bounded.issue sound rfl rfl (.inr ⟨w, ?_, late⟩)
    rw [SessionDb.revocation, found]
    exact becomes.revoked w revoked
  | _ => exact bounded

theorem nextSession_bounded (bounded : db.Bounded) (sound : db.Sound) (called : call.Sound db)
    (opened : ∀ tx, call.issuing = some tx → tx ∈ db.issuing) (fits : forkFits db call input = true)
    (h : nextSession config db call input = some (db', rest)) : db'.Bounded := by
  rcases nextSession_move h with ⟨now, secretHash, rfl, later, move⟩ | ⟨rfl, -⟩
  · have timed : db.Follows { db with clock := now } := .of_same later rfl rfl
    have fits : forkFits { db with clock := now } call (.proceed now secretHash) = true := by
      cases call <;> exact fits
    exact move.bounded bounded (sound.at now)
      (called.follow timed) opened fits
  · rw [failSession]
    split <;> exact bounded

/-! ### Runs -/

/-- What holds of the database when the steps keep it, given what the requests under way do for reused
tokens. -/
theorem detecting_invariant {P : SessionDb → Prop} {clock : Instant}
    {ok : SessionDb → SessionCall → SessionInput → Prop} {t : State SessionDb SessionCall}
    (run : Run (sessionSystem config).step (System.admits ok) ⟨.empty clock, []⟩ t)
    (start : P (.empty clock))
    (next : ∀ {db call input db' rest}, P db → call.Detecting config db → ok db call input →
      nextSession config db call input = some (db', rest) → P db') : P t.db :=
  (System.invariant (P := P) (Q := fun db call => call.Detecting config db) run start (by simp)
    (fun _ entered => enterSession_detecting entered)
    (fun kept detecting fits made => ⟨next kept detecting fits made,
      fun _ same => nextSession_detecting detecting (same ▸ made),
      fun _ other => other.follow (nextSession_follows made)⟩)).1

theorem empty_bounded (clock : Instant) : (SessionDb.empty clock).Bounded := by
  intro token
  rw [graceHeirs_of_live token rfl]
  decide

/-- In every history a token presented past its grace, with an heir rotated or logged out, yields no session and the
sessions of its user found live are revoked. Where each fork is inserted while its token has few heirs, those that a
token has in its grace are bounded. -/
theorem reuse_detected (config : SessionsConfig) (clock : Instant) :
    (∀ t, Reaches (sessionSystem config).step ⟨.empty clock, []⟩ t → t.db.Detected) ∧
    (∀ t, Run (sessionSystem config).step
      (System.admits fun db call input => forkFits db call input = true) ⟨.empty clock, []⟩ t →
      t.db.Bounded) ∧
    ∀ t, Run (sessionSystem config).step
      (System.admits fun db call input => revokesAll db call input = true) ⟨.empty clock, []⟩ t →
      t.db.DetectedAll := by
  refine ⟨fun t run => ?_, fun t run => ?_, fun t run => ?_⟩
  · exact detecting_invariant (System.admitted run) (nofun)
      (fun detected detecting _ made => nextSession_detected detected detecting made)
  · have all := session_invariant (J := fun x => x.db.Bounded) run (empty_bounded clock)
      (fun bounded _ => bounded)
      (fun held sound opened bounded fits _ made =>
        nextSession_bounded bounded held sound opened fits made)
    exact all.2
  · exact detecting_invariant run (nofun)
      (fun detected detecting fits made => nextSession_detectedAll detected detecting fits made)

/-- A token is forked in its grace, its first heir is rotated and it is presented again later. -/
theorem reuse_detected_late : ∃ t : State SessionDb SessionCall,
    (∃ a ∈ t.db.answers, a.rotation.spent = true ∧ a.issued = none ∧ 3 ∈ a.sessions) ∧
      t.db.Detected ∧ t.db.Bounded ∧ t.db.DetectedAll := by
  obtain ⟨t, run, late⟩ := Run.exists_of_exec (sessionSystem plainSessions).step
    (System.admits fun db call input => (forkFits db call input && revokesAll db call input) = true)
    ⟨.empty 0, []⟩
    (exchangeOnce ++ [.start (.rotate ⟨⟨0, "a"⟩, none, false⟩), .advance 0 (.proceed 5 "c"),
      .advance 0 (.proceed 6 "c"), .advance 0 (.proceed 7 "c"),
      .start (.rotate ⟨⟨1, "b"⟩, none, false⟩), .advance 0 (.proceed 8 "d"),
      .advance 0 (.proceed 9 "d"), .advance 0 (.proceed 40000 "d"),
      .start (.rotate ⟨⟨0, "a"⟩, none, false⟩)] ++
      [40001, 40002, 40003, 40004].map (fun now => .advance 0 (.proceed now "")))
    (fun t => t.db.answers.any fun a => a.rotation.spent && a.issued = none && 3 ∈ a.sessions)
    (by decide +kernel)
  have sound := reuse_detected plainSessions 0
  refine ⟨t, ?_, sound.1 t (run.mono fun _ _ _ => trivial),
    sound.2.1 t (System.admits_mono run fun _ _ _ fits => (Bool.and_eq_true_iff.mp fits).1),
    sound.2.2 t (System.admits_mono run fun _ _ _ fits => (Bool.and_eq_true_iff.mp fits).2)⟩
  obtain ⟨a, mem, answered⟩ := List.any_eq_true.mp late
  simp only [Bool.and_eq_true, decide_eq_true_eq] at answered
  exact ⟨a, mem, answered.1.1, answered.1.2, answered.2⟩

/-- Five requests present the same token within its grace, and all of them get a session; and a reused
token closes the sessions of its user while one of them is exchanged, whose heir stays live. -/
theorem reuse_races :
    (¬∀ (config : SessionsConfig) (clock : Instant) (t : State SessionDb SessionCall),
      Reaches (sessionSystem config).step ⟨.empty clock, []⟩ t → t.db.Bounded) ∧
    ¬∀ (config : SessionsConfig) (clock : Instant) (t : State SessionDb SessionCall),
      Reaches (sessionSystem config).step ⟨.empty clock, []⟩ t → t.db.DetectedAll := by
  constructor
  · intro always
    obtain ⟨t, run, five⟩ := Run.exists_of_exec (sessionSystem plainSessions).step
      (fun _ _ => True) ⟨.empty 0, []⟩
      (exchangeOnce ++ List.replicate 4 (.start (.rotate ⟨⟨0, "a"⟩, none, false⟩)) ++
        [0, 1, 2, 3].flatMap (fun i => List.replicate 2 (.advance i (.proceed 5 "c"))) ++
        List.replicate 4 (.advance 0 (.proceed 6 "c")))
      (fun t => (t.db.graceHeirs 0).length = 5) (by decide +kernel)
    have bounded := always plainSessions 0 t run 0
    rw [of_decide_eq_true five] at bounded
    exact absurd bounded (by decide)
  · intro always
    obtain ⟨t, run, escaped⟩ := Run.exists_of_exec (sessionSystem plainSessions).step
      (fun _ _ => True) ⟨.empty 0, []⟩
      (exchangeOnce ++ [.start (.rotate ⟨⟨1, "b"⟩, none, false⟩), .advance 0 (.proceed 5 "c"),
        .advance 0 (.proceed 6 "c"), .advance 0 (.proceed 7 "c"),
        .start (.rotate ⟨⟨2, "c"⟩, none, false⟩), .advance 0 (.proceed 40000 "d"),
        .advance 0 (.proceed 40001 "d"), .start (.rotate ⟨⟨0, "a"⟩, none, false⟩),
        .advance 1 (.proceed 40002 ""), .advance 1 (.proceed 40003 ""),
        .advance 1 (.proceed 40004 ""), .advance 0 (.proceed 40005 "d"),
        .advance 0 (.proceed 40006 "")])
      (fun t => t.db.answers.any (fun a => a.rotation.spent && 3 ∈ a.sessions) &&
        (t.db.sessions.find 3).any Session.live) (by decide +kernel)
    obtain ⟨answered, live⟩ := Bool.and_eq_true_iff.mp escaped
    obtain ⟨a, mem, answered⟩ := List.any_eq_true.mp answered
    obtain ⟨spent, listed⟩ := Bool.and_eq_true_iff.mp answered
    obtain ⟨s, found, live⟩ := (Option.any_eq_true _ _).mp live
    obtain ⟨s', v, found', revoked⟩ :=
      always plainSessions 0 t run a mem spent 3 (of_decide_eq_true listed)
    rw [found] at found'
    cases found'
    rw [Session.live_iff.mp live] at revoked
    cases revoked

end StorageOS
