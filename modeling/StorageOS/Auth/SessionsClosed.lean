import StorageOS.Auth.SessionSteps

/-! Closing all the sessions of a user. A token issued before does not yield a session again, as long as no session of
the user is being issued while they are closed. -/

namespace StorageOS

open Transition Processes

variable {config : SessionsConfig} {db db' : SessionDb} {call : SessionCall} {now : Instant}
  {secretHash : String} {rest : Option SessionCall}

/-- The first session stands at the root of the exchanges that lead to the second. -/
inductive SessionDb.Leads (db : SessionDb) : SessionId → SessionId → Prop
  | refl (id : SessionId) : SessionDb.Leads db id id
  | step {root parent id : SessionId} {s : Session} : SessionDb.Leads db root parent →
    db.sessions.find id = some s → s.rotatedFromId = some parent → SessionDb.Leads db root id

/-- No session comes from a closed one, and those closed are revoked. -/
structure SessionDb.ClosedFinal (db : SessionDb) : Prop where
  heirs : ∀ id s p, db.sessions.find id = some s → s.rotatedFromId = some p → p ∈ db.closed →
    id ∈ db.closed
  later : ∀ id s, db.sessions.find id = some s → s.live = true → ∀ root, db.Leads root id →
    root ∉ db.closed

/-- No fork is decided for a closed token and no heir is substituted for one that has none live. When
all the sessions of a user are revoked, no session of the user is being issued and none was issued
since the statement chose its rows. -/
def closeAlone (db : SessionDb) : SessionCall → SessionInput → Bool
  | .deciding r session, .proceed now _ => !withinGrace r session now || r.token ∉ db.closed
  | .substituting r _ live _, .proceed _ _ => !live.isEmpty || r.token ∉ db.closed
  | .writing (.all userId) _ ids _, .proceed _ _ =>
    (db.issuing.all fun tx => (db.sessions.find tx.token).all fun s => s.userId ≠ userId) &&
      (db.select (RevokeScope.all userId).selects).all (· ∈ ids)
  | _, _ => true

theorem closeAlone_clock (db : SessionDb) (now : Instant) (call : SessionCall)
    (input : SessionInput) :
    closeAlone { db with clock := now } call input = closeAlone db call input := by
  cases call with
  | writing scope reason ids after => cases scope <;> cases input <;> rfl
  | _ => cases input <;> rfl

structure SessionDb.Closed (db : SessionDb) : Prop where
  revoked : ∀ id ∈ db.closed, ∃ s v, db.sessions.find id = some s ∧ s.revoked = some v
  heirs : ∀ id s p, db.sessions.find id = some s → s.rotatedFromId = some p → p ∈ db.closed →
    id ∈ db.closed
  apart : ∀ tx ∈ db.issuing, tx.token ∉ db.closed

theorem SessionDb.Closed.leads (closed : db.Closed) {root id : SessionId} (leads : db.Leads root id)
    (before : root ∈ db.closed) : id ∈ db.closed := by
  induction leads with
  | refl => exact before
  | step _ found parent ih => exact closed.heirs _ _ _ found parent ih

theorem SessionDb.Closed.final (closed : db.Closed) : db.ClosedFinal := by
  refine ⟨closed.heirs, fun id s found live root leads before => ?_⟩
  obtain ⟨s', v, found', revoked⟩ := closed.revoked id (closed.leads leads before)
  rw [found] at found'
  cases found'
  rw [Session.live_iff.mp live] at revoked
  cases revoked

theorem SessionDb.Closed.follow_revoked (closed : db.Closed) (follows : db.Follows db')
    {id : SessionId} (mem : id ∈ db.closed) :
    ∃ s v, db'.sessions.find id = some s ∧ s.revoked = some v := by
  obtain ⟨s, v, found, revoked⟩ := closed.revoked id mem
  obtain ⟨s', found', becomes⟩ := follows.sessions id s found
  exact ⟨s', v, found', becomes.revoked v revoked⟩

variable {ids : List SessionId} {v : Revocation} {tx : Issuing}

theorem SessionDb.Closed.of_revoke (closed : db.Closed) (follows : db.Follows db')
    (sessions : db'.sessions = db.revoke ids v) (issuing : ∀ tx ∈ db'.issuing, tx ∈ db.issuing)
    (same : db'.closed = db.closed) :
    db'.Closed := by
  refine ⟨fun id mem => ?_, fun id s p found parent mem => ?_, fun tx mem => ?_⟩
  · rw [same] at mem
    exact closed.follow_revoked follows mem
  · rw [sessions] at found
    rw [same] at mem ⊢
    rcases revoke_cases found with before | ⟨s₀, before, -, -, rfl⟩
    · exact closed.heirs id s p before parent mem
    · exact closed.heirs id s₀ p before parent mem
  · rw [same]
    exact closed.apart tx (issuing tx mem)

theorem SessionDb.Closed.openIssue (closed : db.Closed) (open_ : tx.token ∉ db.closed) : (db.openIssue tx).Closed := by
  refine ⟨closed.revoked, closed.heirs, fun tx' mem => ?_⟩
  rcases List.mem_cons.mp mem with rfl | mem
  · exact open_
  · exact closed.apart tx' mem

theorem SessionDb.Closed.issue (closed : db.Closed) {r : Rotation} {heir : Session}
    (follows : db.Follows (db.issue r tx v heir)) (mem : tx ∈ db.issuing)
    (parent : heir.rotatedFromId = some tx.token) : (db.issue r tx v heir).Closed := by
  refine ⟨fun id there => closed.follow_revoked follows there, fun id s p found from_ there => ?_,
    fun tx' there => closed.apart tx' (List.mem_of_mem_erase there)⟩
  rcases find_issue found with ⟨-, rfl⟩ | ⟨-, before⟩
  · rw [parent] at from_
    cases from_
    exact absurd there (closed.apart tx mem)
  · rcases revoke_cases before with same | ⟨s₀, same, -, -, rfl⟩
    · exact closed.heirs id s p same from_ there
    · exact closed.heirs id s₀ p same from_ there

theorem SessionDb.Closed.close (closed : db.Closed) (sound : db.Sound) {userId : UserId} {after : Option Rotation}
    (alone : ∀ tx ∈ db.issuing, ∀ s, db.sessions.find tx.token = some s → s.userId ≠ userId)
    (all : ∀ id s, db.sessions.find id = some s → s.userId = userId → s.live = true → id ∈ ids)
    (follows : db.Follows (db.write (.all userId) v ids after)) :
    (db.write (.all userId) v ids after).Closed := by
  have closes : ∀ {id}, id ∈ (db.write (.all userId) v ids after).closed ↔
      (∃ s, db.sessions.find id = some s ∧ s.userId = userId) ∨ id ∈ db.closed := by
    intro id
    rw [write_closed, SessionDb.close, List.mem_append, mem_select]
    simp
  refine ⟨fun id mem => ?_, fun id s p found parent mem => ?_, fun tx mem => ?_⟩
  · rcases closes.mp mem with ⟨s, found, user⟩ | mem
    · obtain ⟨s', found', becomes⟩ := follows.sessions id s found
      cases revoked : s.revoked with
      | none =>
        rw [write_sessions] at found' ⊢
        obtain ⟨w, revoked'⟩ :=
          revoked_revoke (all id s found user (Session.live_iff.mpr revoked)) found'
        exact ⟨s', w, found', revoked'⟩
      | some w => exact ⟨s', w, found', becomes.revoked w revoked⟩
    · exact closed.follow_revoked follows mem
  · rw [write_sessions] at found
    rw [closes] at mem ⊢
    obtain ⟨s₀, before, user, from_⟩ : ∃ s₀, db.sessions.find id = some s₀ ∧
        s.userId = s₀.userId ∧ s₀.rotatedFromId = some p := by
      rcases revoke_cases found with before | ⟨s₀, before, -, -, rfl⟩
      · exact ⟨s, before, rfl, parent⟩
      · exact ⟨s₀, before, rfl, parent⟩
    rcases mem with ⟨q, foundParent, ofUser⟩ | mem
    · obtain ⟨q', -, found', -, -, same⟩ := sound.heirs id s₀ p before from_
      rw [foundParent] at found'
      cases found'
      exact .inl ⟨s₀, before, same.symm.trans ofUser⟩
    · exact .inr (closed.heirs id s₀ p before from_ mem)
  · rw [write_issuing] at mem
    rw [closes]
    rintro (⟨s, found, user⟩ | before)
    · exact alone tx mem s found user
    · exact closed.apart tx mem before

theorem SessionMove.closed (move : SessionMove config db now secretHash call db' rest)
    (closed : db.Closed) (sound : db.Sound) (called : call.Sound db)
    (opened : ∀ tx, call.issuing = some tx → tx ∈ db.issuing)
    (fits : closeAlone db call (.proceed now secretHash) = true) : db'.Closed := by
  have follows := move.follows
  cases move with
  | inserts =>
    refine ⟨fun id mem => closed.follow_revoked follows mem, fun id s p found parent mem => ?_,
      closed.apart⟩
    rw [Table.find_push] at found
    split at found
    · cases found
      cases parent
    · exact closed.heirs id s p found parent mem
  | @claims r session stored read free found live =>
    refine closed.openIssue fun mem => ?_
    obtain ⟨s, v, found', revoked⟩ := closed.revoked _ mem
    rw [found] at found'
    cases found'
    rw [Session.live_iff.mp live] at revoked
    cases revoked
  | @forks r session grace =>
    refine closed.openIssue ?_
    simpa [closeAlone, grace] using fits
  | @claimsHeirs r session live created free stored =>
    refine closed.openIssue fun mem => ?_
    have some_ : live ≠ [] := by
      intro none_
      simp [closeAlone, none_] at fits
      exact fits mem
    obtain ⟨id, listed⟩ := List.exists_mem_of_ne_nil live some_
    obtain ⟨s, found, parent⟩ := called.heirs id listed
    obtain ⟨s', found', isLive⟩ := stored id listed
    obtain ⟨s'', v, found'', revoked⟩ := closed.revoked id (closed.heirs id s _ found parent mem)
    rw [found'] at found''
    cases found''
    rw [Session.live_iff.mp isLive] at revoked
    cases revoked
  | losesHeirs => exact closed.of_revoke follows rfl (fun _ mem => mem) rfl
  | issuesFirst | issuesFork | issuesReplacement => exact closed.issue follows (opened _ rfl) rfl
  | @writes scope reason ids after free =>
    cases scope with
    | all userId =>
      obtain ⟨alone, all⟩ := Bool.and_eq_true_iff.mp fits
      refine closed.close sound (fun tx mem s found => ?_) (fun id s found user live => ?_)
        follows
      · have := List.all_eq_true.mp alone tx mem
        rw [found] at this
        simpa using this
      · have chosen := mem_select.mpr ⟨s, found, show (RevokeScope.all userId).selects id s = true by
          simp [RevokeScope.selects, user, live]⟩
        simpa using List.all_eq_true.mp all id chosen
    | session | own | others =>
      exact closed.of_revoke follows (write_sessions _ _ _ _)
        (fun tx mem => by rwa [write_issuing] at mem) (write_closed _ _ _ _)
  | _ =>
    exact ⟨closed.revoked, closed.heirs, closed.apart⟩

theorem nextSession_closed {input : SessionInput} (closed : db.Closed) (sound : db.Sound)
    (called : call.Sound db) (opened : ∀ tx, call.issuing = some tx → tx ∈ db.issuing)
    (fits : closeAlone db call input = true)
    (h : nextSession config db call input = some (db', rest)) : db'.Closed := by
  rcases nextSession_move h with ⟨now, secretHash, rfl, later, move⟩ | ⟨rfl, -⟩
  · have timed : db.Follows { db with clock := now } := .of_same later rfl rfl
    rw [← closeAlone_clock db now] at fits
    exact move.closed ⟨closed.revoked, closed.heirs, closed.apart⟩ (sound.at now)
      (called.follow timed) opened fits
  · rw [failSession]
    split
    · exact ⟨closed.revoked, closed.heirs, fun tx mem => closed.apart tx (List.mem_of_mem_erase mem)⟩
    · exact closed

/-! ### Runs -/

theorem empty_closed (clock : Instant) : (SessionDb.empty clock).Closed :=
  ⟨fun _ mem => (by cases mem), fun _ _ _ found => (by cases found), fun _ mem => (by cases mem)⟩

/-- In every history in which the sessions of a user are closed while none of them is being issued, no session comes
from a closed one and the live ones come from later logins. -/
theorem sessions_closed (config : SessionsConfig) {clock : Instant}
    {t : State SessionDb SessionCall}
    (run : Run (sessionSystem config).step
      (System.admits fun db call input => closeAlone db call input = true)
      ⟨.empty clock, []⟩ t) : t.db.ClosedFinal := by
  have all := session_invariant (J := fun x => x.db.Closed) run (empty_closed clock)
    (fun closed _ => closed)
    (fun held sound opened closed fits _ made => nextSession_closed closed held sound opened fits made)
  exact all.2.final

def closeAll : List (Action SessionRequest SessionInput) :=
  [.start (.revoke (.all 7) .logoutAll), .advance 0 (.proceed 5 ""), .advance 0 (.proceed 6 "")]

/-- All the sessions of a user are closed, the last token is refused and a login opens another. -/
theorem sessions_closed_login : ∃ t : State SessionDb SessionCall,
    (∃ s, t.db.sessions.find 2 = some s ∧ s.live = true) ∧ t.db.closed = [0, 1] ∧
      t.db.ClosedFinal := by
  obtain ⟨t, run, live⟩ := Run.exists_of_exec (sessionSystem plainSessions).step
    (System.admits fun db call input => closeAlone db call input = true) ⟨.empty 0, []⟩
    (exchangeOnce ++ closeAll ++ [.start (.login 7 none false), .advance 0 (.proceed 7 "c")])
    (fun t => (t.db.sessions.find 2).any Session.live && t.db.closed = [0, 1])
    (by decide +kernel)
  obtain ⟨live, closed⟩ := Bool.and_eq_true_iff.mp live
  obtain ⟨s, found, live⟩ := (Option.any_eq_true _ _).mp live
  exact ⟨t, ⟨s, found, live⟩, of_decide_eq_true closed, sessions_closed plainSessions run⟩

/-- A token exchanged just before all the sessions were closed yields another session. -/
theorem sessions_reopen : ¬∀ (config : SessionsConfig) (clock : Instant)
    (t : State SessionDb SessionCall),
    Reaches (sessionSystem config).step ⟨.empty clock, []⟩ t → t.db.ClosedFinal := by
  intro always
  obtain ⟨t, run, reopened⟩ := Run.exists_of_exec (sessionSystem plainSessions).step
    (fun _ _ => True) ⟨.empty 0, []⟩
    (exchangeOnce ++ closeAll ++ [.start (.rotate ⟨⟨0, "a"⟩, none, false⟩), .advance 0 (.proceed 7 "c"),
      .advance 0 (.proceed 8 "c"), .advance 0 (.proceed 9 "c")])
    (fun t => (t.db.sessions.find 2).any (fun s => s.rotatedFromId = some 0) &&
      0 ∈ t.db.closed && 2 ∉ t.db.closed) (by decide +kernel)
  simp only [Bool.and_eq_true, decide_eq_true_eq] at reopened
  obtain ⟨⟨heir, closed⟩, outside⟩ := reopened
  obtain ⟨s, found, parent⟩ := (Option.any_eq_true _ _).mp heir
  have final := always plainSessions 0 t run
  exact outside (final.heirs 2 s 0 found (of_decide_eq_true parent) closed)

end StorageOS
