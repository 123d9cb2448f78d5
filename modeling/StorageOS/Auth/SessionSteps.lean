import StorageOS.Auth.Sessions

/-! What the statements of session requests do, and what they keep: sessions change only by being
revoked, an heir comes from a rotated session of its user, and the rows that open transactions hold
are live and held once. -/

namespace StorageOS

open Transition Processes

variable {config : SessionsConfig} {db db' : SessionDb} {call : SessionCall} {now : Instant}
  {secretHash : String} {rest : Option SessionCall}

/-- What a statement does. -/
inductive SessionMove (config : SessionsConfig) (db : SessionDb) (now : Instant)
    (secretHash : String) : SessionCall → SessionDb → Option SessionCall → Prop
  | inserts {userId : UserId} {userAgent : Option String} {installedApp : Bool} :
    SessionMove config db now secretHash (.inserting userId userAgent installedApp)
      { db with sessions :=
          db.sessions.push (loginSession config userId userAgent installedApp now secretHash) } none
  | refuses {r : Rotation} (unverified : ∀ session, db.sessions.find r.token = some session →
      config.verifyRefreshSecret r.args.refreshToken.secret session.refreshTokenHash = false) :
    SessionMove config db now secretHash (.reading r) (db.answer r none) none
  | expires {r : Rotation} {session : Session} (found : db.sessions.find r.token = some session) :
    SessionMove config db now secretHash (.reading r) db (some (revokeAllAndFlagReuse r session))
  | finds {r : Rotation} {session : Session} (found : db.sessions.find r.token = some session)
      (live : session.live = true) :
    SessionMove config db now secretHash (.reading r) db (some (.claiming r session now))
  | findsRevoked {r : Rotation} {session : Session}
      (found : db.sessions.find r.token = some session) :
    SessionMove config db now secretHash (.reading r) db (some (.deciding r session))
  | claims {r : Rotation} {session stored : Session} {read : Instant} (free : r.token ∉ db.held)
      (found : db.sessions.find r.token = some stored) (live : stored.live = true) :
    SessionMove config db now secretHash (.claiming r session read)
      (db.openIssue ⟨r.token, [r.token]⟩) (some (.claimed r session read now))
  | loses {r : Rotation} {session : Session} {read : Instant} :
    SessionMove config db now secretHash (.claiming r session read) db (some (.rereading r session))
  | rereads {r : Rotation} {session : Session} :
    SessionMove config db now secretHash (.rereading r session) db
      (some (.deciding r ((db.sessions.find r.token).getD session)))
  | caps {r : Rotation} {session : Session} (grace : withinGrace r session now = true) :
    SessionMove config db now secretHash (.deciding r session) (db.answer r none) none
  | forks {r : Rotation} {session : Session} (grace : withinGrace r session now = true) :
    SessionMove config db now secretHash (.deciding r session) (db.openIssue ⟨r.token, []⟩)
      (some (.forking r session now))
  | flags {r : Rotation} {session : Session} :
    SessionMove config db now secretHash (.deciding r session) db
      (some (revokeAllAndFlagReuse r session))
  | recovers {r : Rotation} {session : Session} {v : Revocation}
      (past : withinGrace r session now = false) (revoked : session.revoked = some v)
      (rotated : v.revokedReason = .rotated) (same : r.sameAgent session = true)
      (unused : ∀ q ∈ db.heirs r.token, ∀ v, q.2.revoked = some v →
        v.revokedReason = .lostResponse) :
    SessionMove config db now secretHash (.deciding r session) db (some (.substituting r session
      (((db.heirs r.token).filter fun q => q.2.live).map Prod.fst) now))
  | claimsHeirs {r : Rotation} {session : Session} {live : List SessionId} {created : Instant}
      (free : ∀ id ∈ live, id ∉ db.held)
      (stored : ∀ id ∈ live, ∃ s, db.sessions.find id = some s ∧ s.live = true) :
    SessionMove config db now secretHash (.substituting r session live created)
      (db.openIssue ⟨r.token, live⟩) (some (.replacing r session live now created))
  | losesHeirs {r : Rotation} {session : Session} {live : List SessionId} {created : Instant}
      (free : ∀ id ∈ live, id ∉ db.held) :
    SessionMove config db now secretHash (.substituting r session live created)
      { db with sessions := db.revoke live ⟨now, .lostResponse⟩ }
      (some (revokeAllAndFlagReuse r session))
  | issuesFirst {r : Rotation} {session : Session} {read created : Instant} :
    SessionMove config db now secretHash (.claimed r session read created)
      (db.issue r ⟨r.token, [r.token]⟩ ⟨read, .rotated⟩ (heirOf config r session created secretHash))
      none
  | issuesFork {r : Rotation} {session : Session} {created : Instant} :
    SessionMove config db now secretHash (.forking r session created)
      (db.issue r ⟨r.token, []⟩ ⟨now, .rotated⟩ (heirOf config r session created secretHash)) none
  | issuesReplacement {r : Rotation} {session : Session} {live : List SessionId}
      {claimed created : Instant} :
    SessionMove config db now secretHash (.replacing r session live claimed created)
      (db.issue r ⟨r.token, live⟩ ⟨claimed, .lostResponse⟩
        (heirOf config r session created secretHash)) none
  | scans {scope : RevokeScope} {reason : RevocationReason} {after : Option Rotation} :
    SessionMove config db now secretHash (.revoking scope reason after) db
      (some (.writing scope reason (db.select scope.selects) after))
  | writes {scope : RevokeScope} {reason : RevocationReason} {ids : List SessionId}
      {after : Option Rotation} (free : ∀ id ∈ ids, id ∉ db.held) :
    SessionMove config db now secretHash (.writing scope reason ids after)
      (db.write scope ⟨now, reason⟩ ids after) none

theorem rotateRead_move (config : SessionsConfig) (db : SessionDb) (now : Instant)
    (secretHash : String) (r : Rotation) :
    SessionMove config db now secretHash (.reading r) (rotateRead config db r now).1
      (rotateRead config db r now).2 := by
  unfold rotateRead
  split
  · rename_i missing
    exact .refuses fun session found => by rw [missing] at found; cases found
  · rename_i session found
    split
    · rename_i unverified
      refine .refuses fun stored found' => ?_
      rw [found] at found'
      cases found'
      simpa using unverified
    · split
      · exact .expires found
      · split
        · rename_i live
          exact .finds found live
        · exact .findsRevoked found

theorem rotateWithinGraceOrRevoke_move (config : SessionsConfig) (db : SessionDb) (now : Instant)
    (secretHash : String) (r : Rotation) (session : Session) :
    SessionMove config db now secretHash (.deciding r session)
      (rotateWithinGraceOrRevoke db r session now).1
      (rotateWithinGraceOrRevoke db r session now).2 := by
  unfold rotateWithinGraceOrRevoke
  split
  · rename_i grace
    split
    · exact .caps grace
    · exact .forks grace
  · rename_i past
    unfold recoverLostResponse
    dsimp only
    split
    · exact .flags
    · rename_i recovers
      simp only [Bool.or_eq_true, Bool.not_eq_true', not_or, Bool.not_eq_false,
        Bool.not_eq_true, List.any_eq_false] at recovers
      obtain ⟨⟨⟨rotated, same⟩, -⟩, unused⟩ := recovers
      obtain ⟨v, revoked, rotated⟩ := (Option.any_eq_true _ _).mp rotated
      refine .recovers (Bool.not_eq_true _ ▸ past) revoked (by simpa using rotated) same ?_
      intro q mem v revoked
      have := unused q mem
      rw [revoked] at this
      simpa using this

variable {input : SessionInput} {id : SessionId} {ids : List SessionId} {v : Revocation} {k : SessionId} {r : Rotation}
  {tx : Issuing} {session : Session} {running : List SessionCall}

theorem nextSession_move (h : nextSession config db call input = some (db', rest)) :
    (∃ now secretHash, input = .proceed now secretHash ∧ db.clock ≤ now ∧
      SessionMove config { db with clock := now } now secretHash call db' rest) ∨
    (db' = failSession db call ∧ rest = none) := by
  cases input with
  | fail =>
    cases h
    exact .inr ⟨rfl, rfl⟩
  | proceed now secretHash =>
    rw [nextSession] at h
    split at h
    · cases h
    rename_i later
    refine .inl ⟨now, secretHash, rfl, not_lt.mp later, ?_⟩
    cases call with
    | inserting userId userAgent installedApp =>
      cases h
      exact .inserts
    | reading r =>
      rw [stepSession, Option.some.injEq] at h
      have move := rotateRead_move config { db with clock := now } now secretHash r
      rwa [h] at move
    | claiming r session read =>
      rw [stepSession] at h
      split at h
      · cases h
      · rename_i free
        split at h
        · rename_i live
          obtain ⟨stored, found, live⟩ := (Option.any_eq_true _ _).mp live
          cases h
          exact .claims free found live
        · cases h
          exact .loses
    | claimed r session read created =>
      cases h
      exact .issuesFirst
    | rereading r session =>
      cases h
      exact .rereads
    | deciding r session =>
      rw [stepSession, Option.some.injEq] at h
      have move := rotateWithinGraceOrRevoke_move config { db with clock := now } now secretHash r
        session
      rwa [h] at move
    | forking r session created =>
      cases h
      exact .issuesFork
    | substituting r session live created =>
      rw [stepSession] at h
      split at h
      · cases h
      · rename_i free
        have free : ∀ id ∈ live, id ∉ SessionDb.held { db with clock := now } := by
          simpa using free
        split at h
        · rename_i stored
          cases h
          refine .claimsHeirs free fun id mem => ?_
          obtain ⟨s, found, live⟩ := (Option.any_eq_true _ _).mp (List.all_eq_true.mp stored id mem)
          exact ⟨s, found, live⟩
        · cases h
          exact .losesHeirs free
    | replacing r session live claimed created =>
      cases h
      exact .issuesReplacement
    | revoking scope reason after =>
      cases h
      exact .scans
    | writing scope reason ids after =>
      rw [stepSession] at h
      split at h
      · cases h
      · rename_i free
        cases h
        exact .writes (by simpa using free)

/-! ### What the sessions keep -/

structure Session.Becomes (s s' : Session) : Prop where
  same : { s' with revoked := s.revoked } = s
  revoked : ∀ v, s.revoked = some v → s'.revoked = some v

theorem Session.Becomes.refl (s : Session) : s.Becomes s := ⟨rfl, fun _ h => h⟩

theorem Session.Becomes.trans {s s' s'' : Session} (first : s.Becomes s') (second : s'.Becomes s'') :
    s.Becomes s'' := by
  refine ⟨?_, fun v h => second.revoked v (first.revoked v h)⟩
  have := second.same
  have := first.same
  cases s
  cases s'
  cases s''
  simp_all

theorem Session.Becomes.user {s s' : Session} (h : s.Becomes s') : s'.userId = s.userId := by
  have same := congrArg Session.userId h.same
  exact same

theorem Session.Becomes.parent {s s' : Session} (h : s.Becomes s') :
    s'.rotatedFromId = s.rotatedFromId := by
  have same := congrArg Session.rotatedFromId h.same
  exact same

theorem Session.live_iff {s : Session} : s.live = true ↔ s.revoked = none := by
  simp [Session.live]

theorem mem_select {p : SessionId → Session → Bool} :
    id ∈ db.select p ↔ ∃ s, db.sessions.find id = some s ∧ p id s = true := by
  simp only [SessionDb.select, List.mem_map, List.mem_filter, Prod.exists, exists_and_right,
    exists_eq_right, Table.find_eq_some]

theorem find_revoke (ids : List SessionId) (v : Revocation) (k : SessionId) :
    (db.revoke ids v).find k = (db.sessions.find k).map fun s =>
      if s.live && k ∈ ids then { s with revoked := some v } else s :=
  Table.find_updateMany _ _ _ k

variable {s' : Session} {token : SessionId} {call' : SessionCall}

theorem revoke_cases (found : (db.revoke ids v).find k = some s') :
    db.sessions.find k = some s' ∨
      ∃ s, db.sessions.find k = some s ∧ s.live = true ∧ k ∈ ids ∧ s' = { s with revoked := some v } := by
  rw [find_revoke, Option.map_eq_some_iff] at found
  obtain ⟨s, before, rfl⟩ := found
  split
  · rename_i chosen
    obtain ⟨live, mem⟩ := Bool.and_eq_true_iff.mp chosen
    exact .inr ⟨s, before, live, by simpa using mem, rfl⟩
  · exact .inl before

theorem becomes_revoke (ids : List SessionId) (v : Revocation) {s : Session} (found : db.sessions.find k = some s) :
    ∃ s', (db.revoke ids v).find k = some s' ∧ s.Becomes s' := by
  rw [find_revoke, found]
  refine ⟨_, rfl, ?_⟩
  dsimp only
  split
  · rename_i chosen
    have live := Session.live_iff.mp (Bool.and_eq_true_iff.mp chosen).1
    exact ⟨rfl, fun v' h => by rw [live] at h; cases h⟩
  · exact .refl s

theorem revoked_revoke (mem : k ∈ ids) (found : (db.revoke ids v).find k = some s') :
    ∃ w, s'.revoked = some w := by
  rw [find_revoke, Option.map_eq_some_iff] at found
  obtain ⟨s, -, rfl⟩ := found
  cases revoked : s.revoked with
  | none => simp [Session.live, revoked, mem]
  | some w => simp [Session.live, revoked]

structure SessionDb.Follows (db db' : SessionDb) : Prop where
  clock : db.clock ≤ db'.clock
  sessions : ∀ id s, db.sessions.find id = some s →
    ∃ s', db'.sessions.find id = some s' ∧ s.Becomes s'
  closed : ∀ id ∈ db.closed, id ∈ db'.closed

theorem SessionDb.Follows.of_same (clock : db.clock ≤ db'.clock)
    (sessions : db'.sessions = db.sessions) (closed : db'.closed = db.closed) : db.Follows db' :=
  ⟨clock, fun _ s found => ⟨s, sessions ▸ found, .refl s⟩, fun _ mem => closed ▸ mem⟩

theorem SessionDb.Follows.trans {db'' : SessionDb} (first : db.Follows db')
    (second : db'.Follows db'') : db.Follows db'' := by
  refine ⟨first.clock.trans second.clock, fun id s found => ?_,
    fun id mem => second.closed id (first.closed id mem)⟩
  obtain ⟨s', found', becomes⟩ := first.sessions id s found
  obtain ⟨s'', found'', becomes'⟩ := second.sessions id s' found'
  exact ⟨s'', found'', becomes.trans becomes'⟩

@[simp] theorem issue_sessions (r : Rotation) (tx : Issuing) (v : Revocation) (heir : Session) :
    (db.issue r tx v heir).sessions = (db.revoke tx.rows v).push heir := rfl

theorem nextKey_revoke (ids : List SessionId) (v : Revocation) :
    (db.revoke ids v).nextKey = db.sessions.nextKey :=
  Table.nextKey_updateMany _ _ _

theorem find_issue {heir s' : Session} (found : (db.issue r tx v heir).sessions.find k = some s') :
    k = db.sessions.nextKey ∧ s' = heir ∨
      k ≠ db.sessions.nextKey ∧ (db.revoke tx.rows v).find k = some s' := by
  rw [issue_sessions, Table.find_push, nextKey_revoke] at found
  split at found
  · rename_i fresh
    exact .inl ⟨fresh, (Option.some.inj found).symm⟩
  · rename_i old
    exact .inr ⟨old, found⟩

variable (scope : RevokeScope)
include scope

theorem write_sessions (v : Revocation) (ids : List SessionId) (after : Option Rotation) :
    (db.write scope v ids after).sessions = db.revoke ids v := by
  cases after <;> rfl

theorem write_issuing (v : Revocation) (ids : List SessionId) (after : Option Rotation) :
    (db.write scope v ids after).issuing = db.issuing := by
  cases after <;> rfl

theorem write_closed (v : Revocation) (ids : List SessionId) (after : Option Rotation) :
    (db.write scope v ids after).closed = db.close scope := by
  cases after <;> rfl

theorem write_clock (v : Revocation) (ids : List SessionId) (after : Option Rotation) :
    (db.write scope v ids after).clock = db.clock := by
  cases after <;> rfl

omit scope

theorem mem_close {scope : RevokeScope} (mem : id ∈ db.closed) :
    id ∈ db.close scope := by
  cases scope with
  | all userId => exact List.mem_append_right _ mem
  | session | own | others => exact mem

theorem SessionMove.follows (move : SessionMove config db now secretHash call db' rest) :
    db.Follows db' := by
  cases move with
  | inserts =>
    exact ⟨le_rfl, fun _ s found => ⟨s, Table.find_push_of_some found _, .refl s⟩, fun _ mem => mem⟩
  | losesHeirs => exact ⟨le_rfl, fun _ _ found => becomes_revoke _ _ found, fun _ mem => mem⟩
  | issuesFirst | issuesFork | issuesReplacement =>
    refine ⟨le_rfl, fun id s found => ?_, fun _ mem => mem⟩
    obtain ⟨s', found', becomes⟩ := becomes_revoke _ _ found
    exact ⟨s', Table.find_push_of_some found' _, becomes⟩
  | writes =>
    refine ⟨(write_clock _ _ _ _).ge, fun id s found => ?_, fun id mem => ?_⟩
    · rw [write_sessions]
      exact becomes_revoke _ _ found
    · rw [write_closed]
      exact mem_close mem
  | _ => exact .of_same le_rfl rfl rfl

theorem failSession_follows (db : SessionDb) (call : SessionCall) :
    db.Follows (failSession db call) := by
  rw [failSession]
  split <;> exact .of_same le_rfl rfl rfl

theorem nextSession_follows (h : nextSession config db call input = some (db', rest)) : db.Follows db' := by
  rcases nextSession_move h with ⟨now, secretHash, -, later, move⟩ | ⟨rfl, -⟩
  · have timed : db.Follows { db with clock := now } := .of_same later rfl rfl
    exact timed.trans move.follows
  · exact failSession_follows db call

/-! ### What a request has read -/

def SessionDb.Reads (db : SessionDb) (r : Rotation) (session : Session) : Prop :=
  ∃ stored, db.sessions.find r.token = some stored ∧ session.Becomes stored

structure SessionDb.Substitutes (db : SessionDb) (r : Rotation) (session : Session)
    (live : List SessionId) (created : Instant) : Prop where
  reads : db.Reads r session
  distinct : live.Nodup
  heirs : ∀ id ∈ live, ∃ s, db.sessions.find id = some s ∧ s.rotatedFromId = some r.token
  past : ∃ v, session.revoked = some v ∧ v.revokedReason = .rotated ∧
    v.revokedAt + refreshReuseGraceMs < created

def SessionCall.Sound (db : SessionDb) : SessionCall → Prop
  | .claiming r session _ | .claimed r session .. | .rereading r session | .deciding r session =>
    db.Reads r session
  | .forking r session _ => db.Reads r session ∧
    ∃ v, session.revoked = some v ∧ v.revokedReason = .rotated
  | .substituting r session live created | .replacing r session live _ created =>
    db.Substitutes r session live created
  | .inserting .. | .reading _ | .revoking .. | .writing .. => True

theorem SessionDb.Reads.follow (reads : db.Reads r session) (follows : db.Follows db') : db'.Reads r session := by
  obtain ⟨stored, found, becomes⟩ := reads
  obtain ⟨stored', found', becomes'⟩ := follows.sessions _ stored found
  exact ⟨stored', found', becomes.trans becomes'⟩

theorem SessionDb.Substitutes.follow {live : List SessionId} {created : Instant}
    (h : db.Substitutes r session live created) (follows : db.Follows db') :
    db'.Substitutes r session live created := by
  refine ⟨h.reads.follow follows, h.distinct, fun id mem => ?_, h.past⟩
  obtain ⟨s, found, parent⟩ := h.heirs id mem
  obtain ⟨s', found', becomes⟩ := follows.sessions id s found
  exact ⟨s', found', becomes.parent.trans parent⟩

theorem SessionCall.Sound.follow (sound : call.Sound db) (follows : db.Follows db') :
    call.Sound db' := by
  cases call with
  | claiming | claimed | rereading | deciding => exact SessionDb.Reads.follow sound follows
  | forking => exact ⟨sound.1.follow follows, sound.2⟩
  | substituting | replacing => exact SessionDb.Substitutes.follow sound follows
  | inserting | reading | revoking | writing => trivial

theorem mem_heirs {q : SessionId × Session} :
    q ∈ db.heirs token ↔ db.sessions.find q.1 = some q.2 ∧ q.2.rotatedFromId = some token := by
  rw [SessionDb.heirs, List.mem_filter, Table.find_eq_some, decide_eq_true_eq]

theorem withinGrace_rotated (grace : withinGrace r session now = true) :
    ∃ v, session.revoked = some v ∧ v.revokedReason = .rotated := by
  obtain ⟨v, revoked, h⟩ := (Option.any_eq_true _ _).mp (Bool.and_eq_true_iff.mp grace).1
  exact ⟨v, revoked, of_decide_eq_true (Bool.and_eq_true_iff.mp h).1⟩

theorem substitutes_of_past (reads : db.Reads r session) (past : withinGrace r session now = false)
    (revoked : session.revoked = some v) (rotated : v.revokedReason = .rotated) (same : r.sameAgent session = true) :
    db.Substitutes r session (((db.heirs r.token).filter fun q => q.2.live).map Prod.fst) now := by
  refine ⟨reads, ?_, fun id mem => ?_, v, revoked, rotated, ?_⟩
  · exact db.sessions.distinct.sublist ((List.filter_sublist.trans List.filter_sublist).map _)
  · obtain ⟨q, chosen, rfl⟩ := List.mem_map.mp mem
    obtain ⟨found, parent⟩ := mem_heirs.mp (List.mem_filter.mp chosen).1
    exact ⟨q.2, found, parent⟩
  · simp only [withinGrace, revoked, same, Option.any_some, rotated, decide_true, Bool.true_and,
      Bool.and_true, decide_eq_false_iff_not, not_le] at past
    lia

theorem SessionMove.sound (move : SessionMove config db now secretHash call db' (some call')) (sound : call.Sound db) :
    call'.Sound db' := by
  have follows := move.follows
  cases move with
  | expires | flags | losesHeirs | scans => trivial
  | finds found | findsRevoked found => exact ⟨_, found, .refl _⟩
  | claims => exact SessionDb.Reads.follow sound follows
  | loses => exact sound
  | rereads =>
    obtain ⟨stored, found, becomes⟩ := sound
    rw [found]
    exact ⟨stored, found, .refl _⟩
  | forks grace => exact ⟨SessionDb.Reads.follow sound follows, withinGrace_rotated grace⟩
  | recovers past revoked rotated same unused =>
    exact substitutes_of_past sound past revoked rotated same
  | claimsHeirs => exact SessionDb.Substitutes.follow sound follows

theorem enterSession_sound {request : SessionRequest}
    (h : enterSession config db request = some call) : call.Sound db ∧ call.issuing = none := by
  cases request with
  | login | rotate | revoke =>
    cases h
    exact ⟨trivial, rfl⟩

/-! ### Heirs and locks -/

/-- An heir comes from a rotated session of its user, and the rows that open transactions hold are
live and held once. -/
structure SessionDb.Sound (db : SessionDb) : Prop where
  heirs : ∀ id s p, db.sessions.find id = some s → s.rotatedFromId = some p → ∃ q v,
    db.sessions.find p = some q ∧ q.revoked = some v ∧ v.revokedReason = .rotated ∧
      q.userId = s.userId
  single : db.held.Nodup
  live : ∀ id ∈ db.held, ∃ s, db.sessions.find id = some s ∧ s.live = true

theorem SessionDb.Sound.at (sound : db.Sound) (now : Instant) :
    SessionDb.Sound { db with clock := now } :=
  ⟨sound.heirs, sound.single, sound.live⟩

theorem SessionDb.Sound.rotated (sound : db.Sound) {id token : SessionId} {s q : Session}
    (heir : db.sessions.find id = some s) (parent : s.rotatedFromId = some token)
    (found : db.sessions.find token = some q) :
    ∃ v, q.revoked = some v ∧ v.revokedReason = .rotated := by
  obtain ⟨q', v, found', revoked, rotated, -⟩ := sound.heirs id s token heir parent
  rw [found] at found'
  cases found'
  exact ⟨v, revoked, rotated⟩

theorem SessionDb.Sound.no_heirs (sound : db.Sound) {q : Session} (found : db.sessions.find token = some q)
    (live : q.live = true) : db.heirs token = [] := by
  refine List.eq_nil_iff_forall_not_mem.mpr fun p mem => ?_
  obtain ⟨heir, parent⟩ := mem_heirs.mp mem
  obtain ⟨v, revoked, -⟩ := sound.rotated heir parent found
  rw [Session.live_iff.mp live] at revoked
  cases revoked

theorem heirs_revoked (sound : db.Sound) (ids : List SessionId) (v : Revocation) :
    ∀ id s p, (db.revoke ids v).find id = some s → s.rotatedFromId = some p → ∃ q w,
      (db.revoke ids v).find p = some q ∧ q.revoked = some w ∧ w.revokedReason = .rotated ∧
        q.userId = s.userId := by
  intro id s' p found parent
  obtain ⟨s, before, becomes⟩ : ∃ s, db.sessions.find id = some s ∧ s.Becomes s' := by
    rcases revoke_cases found with same | ⟨s, before, live, -, rfl⟩
    · exact ⟨s', same, .refl _⟩
    · refine ⟨s, before, rfl, fun w h => ?_⟩
      rw [Session.live_iff.mp live] at h
      cases h
  obtain ⟨q, w, foundParent, revoked, rotated, user⟩ :=
    sound.heirs id s p before (becomes.parent.symm.trans parent)
  obtain ⟨q', found', becomes'⟩ := becomes_revoke ids v foundParent
  exact ⟨q', w, found', becomes'.revoked w revoked, rotated,
    becomes'.user.trans (user.trans becomes.user.symm)⟩

theorem live_revoked (v : Revocation) (free : id ∉ ids) (live : ∃ s, db.sessions.find id = some s ∧ s.live = true) :
    ∃ s, (db.revoke ids v).find id = some s ∧ s.live = true := by
  obtain ⟨s, found, live⟩ := live
  refine ⟨s, ?_, live⟩
  rw [find_revoke, found]
  simp [free]

theorem SessionDb.Sound.revoke (sound : db.Sound) (v : Revocation) (free : ∀ id ∈ ids, id ∉ db.held)
    (sessions : db'.sessions = db.revoke ids v) (issuing : db'.issuing = db.issuing) : db'.Sound := by
  have held : db'.held = db.held := by rw [SessionDb.held, SessionDb.held, issuing]
  refine ⟨?_, by rw [held]; exact sound.single, fun id mem => ?_⟩
  · rw [sessions]
    exact heirs_revoked sound ids v
  · rw [held] at mem
    rw [sessions]
    exact live_revoked v (fun listed => free id listed mem) (sound.live id mem)

theorem SessionDb.Sound.openIssue (sound : db.Sound) (distinct : tx.rows.Nodup) (free : ∀ id ∈ tx.rows, id ∉ db.held)
    (live : ∀ id ∈ tx.rows, ∃ s, db.sessions.find id = some s ∧ s.live = true) :
    (db.openIssue tx).Sound := by
  have held : (db.openIssue tx).held = tx.rows ++ db.held := List.flatMap_cons
  refine ⟨sound.heirs, ?_, fun id mem => ?_⟩
  · rw [held]
    exact distinct.append sound.single fun id mem => free id mem
  · rw [held] at mem
    rcases List.mem_append.mp mem with mem | mem
    · exact live id mem
    · exact sound.live id mem

theorem held_erase (mem : tx ∈ db.issuing) :
    db.held.Perm (tx.rows ++ (db.issuing.erase tx).flatMap Issuing.rows) :=
  (List.perm_cons_erase mem).flatMap_right _

theorem SessionDb.Sound.endIssue (sound : db.Sound) (mem : tx ∈ db.issuing) :
    ((db.issuing.erase tx).flatMap Issuing.rows).Nodup ∧
      ∀ id ∈ (db.issuing.erase tx).flatMap Issuing.rows, id ∈ db.held ∧ id ∉ tx.rows := by
  have perm := held_erase mem
  obtain ⟨-, rest, apart⟩ := List.nodup_append.mp (perm.nodup_iff.mp sound.single)
  exact ⟨rest, fun id there => ⟨perm.mem_iff.mpr (List.mem_append_right _ there),
    fun own => apart id own id there rfl⟩⟩

theorem SessionDb.Sound.issue (sound : db.Sound) (v : Revocation) {heir q : Session} {w : Revocation}
    (mem : tx ∈ db.issuing) (parent : heir.rotatedFromId = some r.token)
    (found : (db.revoke tx.rows v).find r.token = some q) (revoked : q.revoked = some w)
    (rotated : w.revokedReason = .rotated) (user : q.userId = heir.userId) :
    (db.issue r tx v heir).Sound := by
  obtain ⟨distinct, apart⟩ := sound.endIssue mem
  refine ⟨fun id s p foundHeir parentHeir => ?_, distinct, fun id there => ?_⟩
  · rcases find_issue foundHeir with ⟨-, rfl⟩ | ⟨-, before⟩
    · rw [parent] at parentHeir
      cases parentHeir
      exact ⟨q, w, Table.find_push_of_some found _, revoked, rotated, user⟩
    · obtain ⟨q', w', found', revoked', rotated', user'⟩ :=
        heirs_revoked sound tx.rows v id s p before parentHeir
      exact ⟨q', w', Table.find_push_of_some found' _, revoked', rotated', user'⟩
  · obtain ⟨held, free⟩ := apart id there
    obtain ⟨s, foundLive, live⟩ := live_revoked v free (sound.live id held)
    exact ⟨s, Table.find_push_of_some foundLive _, live⟩

theorem SessionDb.Reads.rotated (reads : db.Reads r session) (revoked : session.revoked = some v) (ids : List SessionId)
    (w : Revocation) :
    ∃ q, (db.revoke ids w).find r.token = some q ∧ q.revoked = some v ∧
      q.userId = session.userId := by
  obtain ⟨stored, found, becomes⟩ := reads
  obtain ⟨q, found', becomes'⟩ := becomes_revoke ids w found
  exact ⟨q, found', becomes'.revoked v (becomes.revoked v revoked),
    becomes'.user.trans becomes.user⟩

theorem SessionMove.keeps (move : SessionMove config db now secretHash call db' rest)
    (sound : db.Sound) (called : call.Sound db)
    (opened : ∀ tx, call.issuing = some tx → tx ∈ db.issuing) : db'.Sound := by
  cases move with
  | @inserts userId userAgent installedApp =>
    refine ⟨fun id s p found parent => ?_, sound.single, fun id mem => ?_⟩
    · rw [Table.find_push] at found
      split at found
      · cases found
        cases parent
      · obtain ⟨q, v, foundParent, rotated⟩ := sound.heirs id s p found parent
        exact ⟨q, v, Table.find_push_of_some foundParent _, rotated⟩
    · obtain ⟨s, found, live⟩ := sound.live id mem
      exact ⟨s, Table.find_push_of_some found _, live⟩
  | @claims r session stored read free found live =>
    refine sound.openIssue (by simp) (fun id mem => ?_) (fun id mem => ?_)
    · rw [List.mem_singleton.mp mem]
      exact free
    · rw [List.mem_singleton.mp mem]
      exact ⟨stored, found, live⟩
  | forks => exact sound.openIssue List.nodup_nil (by simp) (by simp)
  | claimsHeirs free stored => exact sound.openIssue called.distinct free stored
  | losesHeirs free => exact sound.revoke _ free rfl rfl
  | @issuesFirst r session read created =>
    have mem := opened _ rfl
    obtain ⟨q, found, live⟩ := sound.live r.token (List.mem_flatMap.mpr ⟨_, mem, by simp⟩)
    obtain ⟨stored, found', becomes⟩ := called
    rw [found] at found'
    cases found'
    refine sound.issue _ mem rfl (q := { q with revoked := some ⟨read, .rotated⟩ }) ?_ rfl rfl
      becomes.user
    rw [find_revoke, found]
    simp [live]
  | @issuesFork r session created =>
    obtain ⟨reads, v, revoked, rotated⟩ := called
    obtain ⟨q, found, revoked', user⟩ := reads.rotated revoked [] ⟨now, .rotated⟩
    exact sound.issue _ (opened _ rfl) rfl found revoked' rotated user
  | @issuesReplacement r session live claimed created =>
    obtain ⟨v, revoked, rotated, -⟩ := called.past
    obtain ⟨q, found, revoked', user⟩ := called.reads.rotated revoked live ⟨claimed, .lostResponse⟩
    exact sound.issue _ (opened _ rfl) rfl found revoked' rotated user
  | writes free => exact sound.revoke _ free (write_sessions _ _ _ _) (write_issuing _ _ _ _)
  | _ =>
    exact ⟨sound.heirs, sound.single, sound.live⟩

theorem failSession_keeps (sound : db.Sound)
    (opened : ∀ tx, call.issuing = some tx → tx ∈ db.issuing) : (failSession db call).Sound := by
  rw [failSession]
  split
  · rename_i tx open_
    obtain ⟨distinct, apart⟩ := sound.endIssue (opened tx open_)
    exact ⟨sound.heirs, distinct, fun id mem => sound.live id (apart id mem).1⟩
  · exact sound

/-! ### Open transactions -/

def SessionBook (s : State SessionDb SessionCall) : Prop :=
  (s.running.filterMap SessionCall.issuing).Perm s.db.issuing

theorem SessionBook.opened (book : SessionBook ⟨db, running⟩) (mem : call ∈ running) :
    ∀ tx, call.issuing = some tx → tx ∈ db.issuing :=
  fun _ opens => book.subset (List.mem_filterMap.mpr ⟨call, mem, opens⟩)

theorem SessionBook.entered (book : SessionBook ⟨db, running⟩) (closed : call.issuing = none) :
    SessionBook ⟨db, running ++ [call]⟩ := by
  rw [SessionBook] at book ⊢
  simpa [List.filterMap_append, closed] using book

theorem SessionMove.issuing (move : SessionMove config db now secretHash call db' rest) :
    db'.issuing = (rest.bind SessionCall.issuing).toList ++
      (call.issuing.elim db.issuing fun tx => db.issuing.erase tx) := by
  cases move with
  | writes => exact write_issuing _ _ _ _
  | _ => rfl

theorem SessionBook.next {i : ℕ} (book : SessionBook ⟨db, running⟩) (place : running[i]? = some call)
    (h : nextSession config db call input = some (db', rest)) :
    SessionBook ⟨db', resume running i rest⟩ := by
  have issuing : db'.issuing = (rest.bind SessionCall.issuing).toList ++
      (call.issuing.elim db.issuing fun tx => db.issuing.erase tx) := by
    rcases nextSession_move h with ⟨now, secretHash, -, -, move⟩ | ⟨rfl, rfl⟩
    · exact move.issuing
    · rw [failSession]
      cases opens : call.issuing <;> rfl
  have opened := book.opened (List.mem_of_getElem? place)
  have perm := filterMap_resume SessionCall.issuing place rest
  rw [SessionBook] at book ⊢
  rw [issuing]
  dsimp only at book
  cases opens : call.issuing with
  | none =>
    rw [opens] at perm
    exact perm.trans ((book.append_right _).trans List.perm_append_comm)
  | some tx =>
    rw [opens] at perm
    have before := (book.trans (List.perm_cons_erase (opened tx opens))).append_right
      (rest.bind SessionCall.issuing).toList
    exact List.Perm.cons_inv ((perm.trans before).trans (List.perm_append_comm.cons tx))

/-! ### Runs -/

theorem empty_sound (clock : Instant) : (SessionDb.empty clock).Sound :=
  ⟨fun _ _ _ found => (by cases found), List.nodup_nil, fun _ mem => (by cases mem)⟩

theorem nextSession_sound (sound : call.Sound db) (h : nextSession config db call input = some (db', some call')) :
    call'.Sound db' := by
  rcases nextSession_move h with ⟨now, secretHash, -, later, move⟩ | ⟨-, none_⟩
  · have timed : db.Follows { db with clock := now } := .of_same later rfl rfl
    exact move.sound (sound.follow timed)
  · cases none_

theorem nextSession_keeps (held : db.Sound) (sound : call.Sound db)
    (opened : ∀ tx, call.issuing = some tx → tx ∈ db.issuing)
    (h : nextSession config db call input = some (db', rest)) : db'.Sound := by
  rcases nextSession_move h with ⟨now, secretHash, -, later, move⟩ | ⟨rfl, -⟩
  · have timed : db.Follows { db with clock := now } := .of_same later rfl rfl
    exact move.keeps (held.at now) (sound.follow timed) opened
  · exact failSession_keeps held opened

/-- What every admitted step keeps, given what holds of the sessions, the requests and their open
transactions, holds after every history. -/
theorem session_invariant {J : State SessionDb SessionCall → Prop} {clock : Instant}
    {ok : SessionDb → SessionCall → SessionInput → Prop} {t : State SessionDb SessionCall}
    (run : Run (sessionSystem config).step (System.admits ok) ⟨.empty clock, []⟩ t)
    (start : J ⟨.empty clock, []⟩)
    (enter : ∀ {db running request call}, J ⟨db, running⟩ →
      enterSession config db request = some call → J ⟨db, running ++ [call]⟩)
    (next : ∀ {db running i call input db' rest}, db.Sound → call.Sound db →
      (∀ tx, call.issuing = some tx → tx ∈ db.issuing) → J ⟨db, running⟩ → ok db call input →
      running[i]? = some call → nextSession config db call input = some (db', rest) →
      J ⟨db', resume running i rest⟩) : t.db.Sound ∧ J t := by
  have all := System.invariant_with (P := fun _ => True) (Q := fun db call => call.Sound db)
    (J := fun x => x.db.Sound ∧ SessionBook x ∧ J x) run trivial (by simp)
    ⟨empty_sound clock, .nil, start⟩
    (fun _ entered => (enterSession_sound entered).1)
    (fun _ sound _ made => ⟨trivial, fun call' same => nextSession_sound sound (same ▸ made),
      fun other held => held.follow (nextSession_follows made)⟩)
    (fun _ kept entered =>
      ⟨kept.1, kept.2.1.entered (enterSession_sound entered).2, enter kept.2.2 entered⟩)
    (fun _ sound kept fits place made => by
      obtain ⟨held, book, also⟩ := kept
      have opened := book.opened (List.mem_of_getElem? place)
      exact ⟨nextSession_keeps held sound opened made, book.next place made,
        next held sound opened also fits place made⟩)
  exact ⟨all.2.2.1, all.2.2.2.2⟩

/-- Secrets stored as they are, a day in a browser and a month in the app. -/
def plainSessions : SessionsConfig := ⟨fun secret hash => secret = hash, 86400, 2592000⟩

def exchangeOnce : List (Action SessionRequest SessionInput) :=
  [.start (.login 7 none false), .advance 0 (.proceed 1 "a"),
    .start (.rotate ⟨⟨0, "a"⟩, none, false⟩), .advance 0 (.proceed 2 "b"),
    .advance 0 (.proceed 3 "b"), .advance 0 (.proceed 4 "b")]

end StorageOS
