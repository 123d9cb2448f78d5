import StorageOS.Users.Invitations

/-! The active users and the live invitations of a tenant stay within its limit, and an invitation is accepted if and
only if its user is created, in the runs where what was counted is still so when it is written. -/

namespace StorageOS

open Transition Processes

variable {db db' : SeatsDb} {call : SeatsCall} {rest : Option SeatsCall} {input : SeatsInput} {plan : Bool}
  {tenantId : TenantId} {s t : State SeatsDb SeatsCall} {i : InvitationId} {now : Instant}

def SeatsCall.acceptingIn (tenantId : TenantId) : SeatsCall → ℤ
  | .rechecking _ record | .saving _ record => if record.tenantId = tenantId then 1 else 0
  | _ => 0

def SeatsCall.accepting (i : InvitationId) : SeatsCall → ℤ
  | .rechecking id _ | .saving id _ => if id = i then 1 else 0
  | _ => 0

/-- The active users, the live invitations and the acceptances under way. -/
def seatsTaken (tenantId : TenantId) (s : State SeatsDb SeatsCall) (now : Instant) : ℤ :=
  s.db.activeUsers tenantId + s.db.liveInvitations tenantId now +
    (s.running.map (SeatsCall.acceptingIn tenantId)).sum

/-- A limit that is no more than another; without limit is more than any. -/
def limitLe (limit limit' : Option ℤ) : Bool := limit'.all fun n' => limit.any (· ≤ n')

/-- Whether a statement takes a seat: a row for a new invitation, the acceptance of one that expired after it was
looked up, or a user made active again. -/
def SeatsDb.takes (db : SeatsDb) (tenantId : TenantId) (now : Instant) : SeatsCall → Bool
  | .creating invite _ _ => invite.tenantId = tenantId
  | .recreating invite => invite.tenantId = tenantId && !db.hasPending invite.tenantId invite.email
  | .marking id _ => (db.invitations.find id).any fun row =>
    row.tenantId = tenantId && row.pending && !row.live now
  | .ofUsers (.updating k edit) => edit.isActive = some true && (db.members.find k).any fun member =>
    member.user.tenantId = tenantId && !member.user.isActive
  | _ => false

def seatsInTurn (tenantId : TenantId) (s : State SeatsDb SeatsCall) (call : SeatsCall) (input : SeatsInput) :
    Bool :=
  match input.stops, call with
  -- An acceptance is not cut off before its user, whose e-mail no other user has taken.
  | true, .rechecking _ record | true, .saving _ record => record.tenantId ≠ tenantId
  | false, .rechecking _ record | false, .saving _ record =>
    record.tenantId ≠ tenantId || !s.db.hasEmail record.tenantId record.email
  | true, _ => true
  -- No more than a creation has counted, and a limit that is still so.
  | false, .creating invite counted limit => invite.tenantId ≠ tenantId ||
    (seatsTaken tenantId s input.moment ≤ counted && limitLe limit (s.db.capacity tenantId).limit)
  -- The limit does not shrink.
  | false, .changing other capacity =>
    other ≠ tenantId || limitLe (s.db.capacity tenantId).limit capacity.limit
  -- Outside the lock, seats are taken below the limit.
  | false, call => !s.db.takes tenantId input.moment call ||
    (s.db.capacity tenantId).limit.all fun limit => seatsTaken tenantId s input.moment < limit

/-! ### Seats -/

/-- The seats of the database as a statement finds them, with that of its request. -/
def SeatsDb.seats (db : SeatsDb) (tenantId : TenantId) (call : Option SeatsCall) : ℤ :=
  db.activeUsers tenantId + db.liveInvitations tenantId db.clock +
    (call.map (SeatsCall.acceptingIn tenantId)).getD 0

theorem acceptingIn_nonneg (tenantId : TenantId) (call : SeatsCall) : 0 ≤ call.acceptingIn tenantId := by
  cases call <;> simp only [SeatsCall.acceptingIn] <;> try split
  all_goals decide

theorem liveInvitations_le (db : SeatsDb) (tenantId : TenantId) {now' : Instant} (later : now ≤ now') :
    db.liveInvitations tenantId now' ≤ db.liveInvitations tenantId now := by
  refine Table.sum_le_sum fun row _ => ?_
  simp only [Invitation.live, Bool.and_eq_true, decide_eq_true_eq]
  have shorter : now' < row.expiresAt → now < row.expiresAt := fun h => lt_of_le_of_lt later h
  split <;> split <;> simp_all

/-- What a request knows: the invitation it accepts is its tenant's, and what a creation counted is below the
limit that it read. -/
def SeatsCall.Known (db : SeatsDb) : SeatsCall → Prop
  | .marking id record | .rechecking id record | .saving id record =>
    ∃ row, db.invitations.find id = some row ∧ row.tenantId = record.tenantId
  | .checking _ counted limit | .creating _ counted limit => assertCanCreate limit counted = true
  | _ => True

theorem liveInvitations_push (db : SeatsDb) (tenantId : TenantId) (now : Instant) (invite : Invite) :
    ({ db with invitations := db.invitations.push invite.row } : SeatsDb).liveInvitations tenantId now ≤
      db.liveInvitations tenantId now + if invite.tenantId = tenantId then 1 else 0 := by
  simp only [SeatsDb.liveInvitations, Table.sum_push, Invite.row]
  by_cases own : invite.tenantId = tenantId <;> simp only [own, if_true, if_false, true_and, false_and]
  · split <;> omega
  · omega

variable {f : Invitation → Invitation} {running : List SeatsCall}

theorem liveInvitations_modify (db : SeatsDb) (tenantId : TenantId) (now : Instant) (k : InvitationId)
    (dead : ∀ row, (f row).tenantId = row.tenantId ∧ ((f row).live now = true → row.live now = true)) :
    ({ db with invitations := db.invitations.modify k f } : SeatsDb).liveInvitations tenantId now ≤
      db.liveInvitations tenantId now := by
  refine (Table.sum_modify_le le_rfl fun row _ => ?_).trans_eq (add_zero _)
  obtain ⟨tenant, live⟩ := dead row
  rw [tenant, add_zero]
  split <;> rename_i after
  · rw [if_pos ⟨after.1, live after.2⟩]
  · split <;> omega

theorem revoked_live (row : Invitation) : ({ row with revokedAt := some now } : Invitation).live now = false := by
  simp [Invitation.live, Invitation.pending]

theorem activeUsers_edit (db : SeatsDb) (tenantId : TenantId) (k : UserId) {f : TenantUser → TenantUser} {n : ℤ}
    (nonneg : 0 ≤ n)
    (edit : ∀ member, db.members.find k = some member → (f member.user).tenantId = member.user.tenantId ∧
      ((f member.user).isActive = true → member.user.tenantId = tenantId →
        member.user.isActive = true ∨ 1 ≤ n)) :
    ({ db with members := db.members.modify k (Member.edit f) } : SeatsDb).activeUsers tenantId ≤
      db.activeUsers tenantId + n := by
  refine Table.sum_modify_le nonneg fun member found => ?_
  obtain ⟨tenant, active⟩ := edit member found
  simp only [Member.edit, tenant]
  split <;> rename_i after
  · rcases active after.2 after.1 with before | more
    · rw [if_pos ⟨after.1, before⟩]
      omega
    · split <;> omega
  · split <;> omega

theorem seats_unmoved (members : db'.members = db.members) (invitations : db'.invitations = db.invitations)
    (clock : db'.clock = db.clock)
    (goesOn : (rest.map (SeatsCall.acceptingIn tenantId)).getD 0 ≤ call.acceptingIn tenantId) :
    db'.clock = db.clock ∧ db'.seats tenantId rest ≤
      db.seats tenantId (some call) + if db.takes tenantId db.clock call then 1 else 0 := by
  refine ⟨clock, ?_⟩
  rw [SeatsDb.seats, SeatsDb.seats, SeatsDb.activeUsers, SeatsDb.liveInvitations, members, invitations, clock,
    ← SeatsDb.activeUsers, ← SeatsDb.liveInvitations, Option.map_some, Option.getD_some]
  split <;> omega

theorem runSeats_seats (tenantId : TenantId) (known : call.Known db) (made : runSeats db plan call = some (db', rest)) :
    db'.clock = db.clock ∧ db'.seats tenantId rest ≤
      db.seats tenantId (some call) + if db.takes tenantId db.clock call then 1 else 0 := by
  cases call with
  | locking invite =>
    simp only [runSeats] at made
    split at made <;> cases made
    exact seats_unmoved rfl rfl rfl le_rfl
  | hashing | rehashing | counting =>
    cases made
    exact seats_unmoved rfl rfl rfl le_rfl
  | resolving invite counted read =>
    simp only [runSeats] at made
    split at made
    · split at made <;> cases made <;> exact seats_unmoved rfl rfl rfl le_rfl
    · cases made
      exact seats_unmoved rfl rfl rfl le_rfl
  | checking invite counted limit =>
    simp only [runSeats] at made
    split at made <;> cases made <;> exact seats_unmoved rfl rfl rfl le_rfl
  | creating invite counted limit =>
    cases made
    refine ⟨rfl, ?_⟩
    have closed : (db.invitations.updateMany
        (fun q => q.2.tenantId = invite.tenantId && q.2.email = invite.email && q.2.pending)
        fun row => { row with revokedAt := some db.clock }).sum
          (fun row => if row.tenantId = tenantId ∧ row.live db.clock = true then 1 else 0) ≤
        db.liveInvitations tenantId db.clock := by
      refine Table.sum_updateMany_le fun q _ _ => ?_
      rw [revoked_live, if_neg (fun h => Bool.false_ne_true h.2)]
      split <;> decide
    have pushed := fun closed => liveInvitations_push { db with invitations := closed } tenantId db.clock invite
    have pushed := pushed (db.invitations.updateMany
      (fun q => q.2.tenantId = invite.tenantId && q.2.email = invite.email && q.2.pending)
      fun row => { row with revokedAt := some db.clock })
    simp only [SeatsDb.seats, SeatsDb.takes, SeatsCall.acceptingIn, Option.map_none, Option.map_some,
      Option.getD_none, Option.getD_some, decide_eq_true_eq, SeatsDb.release, SeatsDb.activeUsers]
    simp only [SeatsDb.liveInvitations] at pushed closed ⊢
    omega
  | replacing id original =>
    cases made
    refine ⟨rfl, ?_⟩
    have fewer := liveInvitations_modify db tenantId db.clock id
      (f := fun row => { row with revokedAt := some db.clock })
      fun row => ⟨rfl, fun live => by rw [revoked_live] at live; cases live⟩
    simp only [SeatsDb.seats, SeatsDb.takes, SeatsCall.acceptingIn, Option.map_some, Option.getD_some,
      SeatsDb.activeUsers, Bool.false_eq_true, if_false] at fewer ⊢
    omega
  | recreating invite =>
    simp only [runSeats] at made
    split at made
    · cases made
      exact seats_unmoved rfl rfl rfl le_rfl
    · rename_i free
      cases made
      refine ⟨rfl, ?_⟩
      have pushed := liveInvitations_push db tenantId db.clock invite
      simp only [SeatsDb.seats, SeatsDb.takes, SeatsCall.acceptingIn, Option.map_none, Option.map_some,
        Option.getD_none, Option.getD_some, SeatsDb.activeUsers, free, Bool.not_false, Bool.and_true,
        decide_eq_true_eq] at pushed ⊢
      omega
  | revoking other id =>
    cases made
    refine ⟨rfl, ?_⟩
    have fewer := liveInvitations_modify db tenantId db.clock id
      (f := fun row => if row.tenantId = other ∧ row.pending then { row with revokedAt := some db.clock } else row)
      fun row => by
        split
        · exact ⟨rfl, fun live => by rw [revoked_live] at live; cases live⟩
        · exact ⟨rfl, fun live => live⟩
    simp only [SeatsDb.seats, SeatsDb.takes, SeatsCall.acceptingIn, Option.map_none, Option.getD_none,
      Option.map_some, Option.getD_some, SeatsDb.activeUsers, Bool.false_eq_true, if_false] at fewer ⊢
    omega
  | marking id record =>
    obtain ⟨row, found, tenant⟩ := known
    simp only [runSeats, found, Option.any_some] at made
    split at made
    · rename_i pending
      cases made
      refine ⟨rfl, ?_⟩
      have marked := Table.sum_modify found (fun row => { row with acceptedAt := some db.clock })
        fun row => if row.tenantId = tenantId ∧ row.live db.clock = true then (1 : ℤ) else 0
      rw [if_neg (by simp [Invitation.live, Invitation.pending])] at marked
      simp only [SeatsDb.seats, SeatsDb.takes, SeatsDb.liveInvitations, SeatsCall.acceptingIn, Option.map_some,
        Option.getD_some, found, Option.any_some, pending, marked, ← tenant, SeatsDb.activeUsers]
      by_cases own : row.tenantId = tenantId <;> cases live : row.live db.clock <;>
        simp only [own, decide_true, decide_false, Bool.true_and, Bool.false_and, Bool.not_true, Bool.not_false,
          and_true, and_false, if_true, if_false, Bool.false_eq_true] <;> omega
    · cases made
      exact seats_unmoved rfl rfl rfl le_rfl
  | rechecking id record =>
    simp only [runSeats] at made
    split at made <;> cases made
    · exact seats_unmoved rfl rfl rfl (acceptingIn_nonneg _ _)
    · exact seats_unmoved rfl rfl rfl le_rfl
  | saving id record =>
    simp only [runSeats] at made
    split at made <;> cases made
    · exact seats_unmoved rfl rfl rfl (acceptingIn_nonneg _ _)
    · refine ⟨rfl, ?_⟩
      simp only [SeatsDb.seats, SeatsDb.takes, SeatsDb.activeUsers, SeatsDb.liveInvitations, Table.sum_push,
        SeatsCall.acceptingIn, and_true, Option.map_none, Option.map_some, Option.getD_none, Option.getD_some,
        Bool.false_eq_true, if_false]
      omega
  | ofUsers users =>
    cases made
    refine ⟨rfl, ?_⟩
    have idle : ((stepMembers db.members users).2.map SeatsCall.ofUsers).map (SeatsCall.acceptingIn tenantId) =
        (stepMembers db.members users).2.map fun _ => 0 := by
      cases (stepMembers db.members users).2 <;> rfl
    have none_ : (((stepMembers db.members users).2.map fun _ => (0 : ℤ)).getD 0) = 0 := by
      cases (stepMembers db.members users).2 <;> rfl
    have users_ : ({ db with members := (stepMembers db.members users).1 } : SeatsDb).activeUsers tenantId ≤
        db.activeUsers tenantId + if db.takes tenantId db.clock (.ofUsers users) then 1 else 0 := by
      cases users with
      | reading =>
        simp only [stepMembers, SeatsDb.takes, Bool.false_eq_true, if_false, add_zero]
        exact le_rfl
      | updating k edit =>
        refine activeUsers_edit db tenantId k (by split <;> decide) fun member found => ⟨rfl, fun active own => ?_⟩
        cases before : member.user.isActive with
        | true => exact .inl rfl
        | false =>
          refine .inr ?_
          have again : edit.isActive = some true := by
            obtain ⟨role, isActive⟩ := edit
            cases isActive with
            | none => simp [UpdateUserInput.write, before] at active
            | some value => simpa [UpdateUserInput.write] using active
          simp [SeatsDb.takes, again, found, own, before]
      | deactivating k =>
        refine activeUsers_edit db tenantId k (by split <;> decide) fun member _ => ⟨rfl, fun active _ => by cases active⟩
      | transferring j k =>
        have demoted := activeUsers_edit db tenantId j (n := 0)
          (f := TenantUser.demote) le_rfl fun member _ => ⟨rfl, fun active _ => .inl active⟩
        have promoted := activeUsers_edit
          { db with members := db.members.modify j (Member.edit TenantUser.demote) }
          tenantId k (n := 0) (f := TenantUser.promote) le_rfl
          fun member _ => ⟨rfl, fun active _ => .inl active⟩
        simp only [SeatsDb.takes, Bool.false_eq_true, if_false]
        exact promoted.trans (by omega)
    simp only [SeatsDb.seats, idle, none_, Option.map_some, Option.getD_some, SeatsCall.acceptingIn] at users_ ⊢
    simp only [SeatsDb.liveInvitations] at users_ ⊢
    omega
  | changing other capacity =>
    cases made
    exact seats_unmoved rfl rfl rfl le_rfl

/-! ### Acceptances -/

def SeatsDb.createdVia (db : SeatsDb) (i : InvitationId) : ℤ :=
  db.members.sum fun member => if member.viaInvitationId = some i then 1 else 0

def SeatsDb.accepted (db : SeatsDb) (i : InvitationId) : ℤ :=
  if (db.invitations.find i).any fun row => row.acceptedAt.isSome then 1 else 0

def SeatsDb.elsewhere (db : SeatsDb) (tenantId : TenantId) (i : InvitationId) : Bool :=
  (db.invitations.find i).any (·.tenantId ≠ tenantId)

/-- An invitation of the tenant, accepted, has created its user, or its acceptance is under way. -/
def AcceptedOnce (tenantId : TenantId) (s : State SeatsDb SeatsCall) : Prop := ∀ i,
  s.db.elsewhere tenantId i = false →
    s.db.createdVia i + (s.running.map (SeatsCall.accepting i)).sum = s.db.accepted i

def InvitationsStay (db db' : SeatsDb) : Prop := ∀ i row, db.invitations.find i = some row →
  ∃ row', db'.invitations.find i = some row' ∧ row'.tenantId = row.tenantId

theorem SeatsCall.Known.stay (known : call.Known db) (stay : InvitationsStay db db') : call.Known db' := by
  have here : ∀ {i : InvitationId} {record : Invitation},
      (∃ row, db.invitations.find i = some row ∧ row.tenantId = record.tenantId) →
        ∃ row, db'.invitations.find i = some row ∧ row.tenantId = record.tenantId := by
    rintro i record ⟨row, found, tenant⟩
    obtain ⟨row', found', tenant'⟩ := stay i row found
    exact ⟨row', found', tenant'.trans tenant⟩
  cases call with
  | marking => exact here known
  | rechecking => exact here known
  | saving => exact here known
  | checking => exact known
  | creating => exact known
  | _ => trivial

theorem invitationsStay_modify {k : InvitationId} (tenant : ∀ row, (f row).tenantId = row.tenantId)
    (same : db'.invitations = db.invitations.modify k f) : InvitationsStay db db' := by
  intro i row found
  rw [same]
  exact Table.exists_find_modify found (fun _ => tenant row) rfl

theorem invitationsStay_push {p : InvitationId × Invitation → Bool} {new : Invitation}
    (tenant : ∀ row, (f row).tenantId = row.tenantId)
    (same : db'.invitations = (db.invitations.updateMany p f).push new) : InvitationsStay db db' := by
  intro i row found
  rw [same]
  have there : ∃ row', (db.invitations.updateMany p f).find i = some row' ∧ row'.tenantId = row.tenantId := by
    rw [Table.find_updateMany, found]
    refine ⟨_, rfl, ?_⟩
    simp only
    split
    · exact tenant row
    · rfl
  obtain ⟨row', found', tenant'⟩ := there
  exact ⟨row', Table.find_push_of_some found' new, tenant'⟩

theorem runSeats_stay (known : call.Known db) (made : runSeats db plan call = some (db', rest)) :
    InvitationsStay db db' ∧ ∀ call', rest = some call' → call'.Known db' := by
  have same : ∀ {db' : SeatsDb}, db'.invitations = db.invitations → InvitationsStay db db' :=
    fun same i row found => ⟨row, same ▸ found, rfl⟩
  have over_ : ∀ {call'' : SeatsCall}, (none : Option SeatsCall) = some call'' → call''.Known db' :=
    nofun
  have goes : ∀ {db' : SeatsDb} {call'' : SeatsCall}, call''.Known db' →
      ∀ call', some call'' = some call' → call'.Known db' := fun known _ same => Option.some.inj same ▸ known
  cases call with
  | locking invite =>
    simp only [runSeats] at made
    split at made <;> cases made
    exact ⟨same rfl, goes trivial⟩
  | hashing | rehashing | counting =>
    cases made
    exact ⟨same rfl, goes trivial⟩
  | resolving invite counted read =>
    simp only [runSeats] at made
    split at made
    · split at made <;> cases made
      · rename_i allowed
        exact ⟨same rfl, goes allowed⟩
      · exact ⟨same rfl, fun _ => over_⟩
    · cases made
      exact ⟨same rfl, goes trivial⟩
  | checking invite counted limit =>
    simp only [runSeats] at made
    split at made <;> cases made
    · exact ⟨same rfl, fun _ => over_⟩
    · exact ⟨same rfl, goes known⟩
  | creating invite counted limit =>
    cases made
    exact ⟨invitationsStay_push (f := fun row => { row with revokedAt := some db.clock }) (fun _ => rfl) rfl,
      fun _ => over_⟩
  | replacing id original =>
    cases made
    exact ⟨invitationsStay_modify (f := fun row => { row with revokedAt := some db.clock }) (fun _ => rfl) rfl,
      goes trivial⟩
  | recreating invite =>
    simp only [runSeats] at made
    split at made <;> cases made
    · exact ⟨same rfl, fun _ => over_⟩
    · exact ⟨fun i row found => ⟨row, Table.find_push_of_some found _, rfl⟩, fun _ => over_⟩
  | revoking other id =>
    cases made
    refine ⟨invitationsStay_modify (f := fun row => if row.tenantId = other ∧ row.pending then
      { row with revokedAt := some db.clock } else row) (fun row => ?_) rfl, fun _ => over_⟩
    split <;> rfl
  | marking id record =>
    simp only [runSeats] at made
    split at made <;> cases made
    · have stay : InvitationsStay db ⟨db.members, db.invitations.modify id fun row =>
          { row with acceptedAt := some db.clock }, db.capacity, db.locks, db.clock⟩ :=
        invitationsStay_modify (f := fun row => { row with acceptedAt := some db.clock }) (fun _ => rfl) rfl
      have known : (SeatsCall.rechecking id record).Known db := known
      exact ⟨stay, goes (known.stay stay)⟩
    · exact ⟨same rfl, fun _ => over_⟩
  | rechecking id record =>
    simp only [runSeats] at made
    split at made <;> cases made
    · exact ⟨same rfl, fun _ => over_⟩
    · exact ⟨same rfl, goes known⟩
  | saving id record =>
    simp only [runSeats] at made
    split at made <;> cases made <;> exact ⟨same rfl, fun _ => over_⟩
  | ofUsers users =>
    cases made
    refine ⟨same rfl, fun call' goesOn => ?_⟩
    obtain ⟨users', -, rfl⟩ := Option.map_eq_some_iff.mp goesOn
    trivial
  | changing other capacity =>
    cases made
    exact ⟨same rfl, fun _ => over_⟩

theorem accepting_apart {id : InvitationId} {record : Invitation} (here : db.elsewhere tenantId i = false)
    (strange : record.tenantId ≠ tenantId)
    (known : ∃ row, db.invitations.find id = some row ∧ row.tenantId = record.tenantId) :
    (if id = i then (1 : ℤ) else 0) = 0 := by
  obtain ⟨row, found, tenant⟩ := known
  refine if_neg ?_
  rintro rfl
  rw [SeatsDb.elsewhere, found, Option.any_some, decide_eq_false_iff_not, not_not] at here
  exact strange (tenant.symm.trans here)

theorem accepting_elsewhere (known : call.Known db) (here : db.elsewhere tenantId i = false)
    (other : ∀ id record, call = .rechecking id record ∨ call = .saving id record →
      record.tenantId ≠ tenantId) : call.accepting i = 0 := by
  cases call with
  | rechecking id record => exact accepting_apart here (other id record (.inl rfl)) known
  | saving id record => exact accepting_apart here (other id record (.inr rfl)) known
  | _ => rfl

def SeatsCall.lost (tenantId : TenantId) (db : SeatsDb) : SeatsCall → Bool
  | .rechecking _ record | .saving _ record =>
    record.tenantId = tenantId && db.hasEmail record.tenantId record.email
  | _ => false

theorem runSeats_accepted (known : call.Known db) (here : db.elsewhere tenantId i = false)
    (kept : call.lost tenantId db = false) (made : runSeats db plan call = some (db', rest)) :
    db'.createdVia i + (rest.map (SeatsCall.accepting i)).getD 0 + db.accepted i =
      db.createdVia i + call.accepting i + db'.accepted i := by
  have accepted_modify : ∀ {f : Invitation → Invitation} {k : InvitationId},
      (∀ row, (f row).acceptedAt.isSome = row.acceptedAt.isSome) →
        ({ db with invitations := db.invitations.modify k f } : SeatsDb).accepted i = db.accepted i := by
    intro f k same
    simp only [SeatsDb.accepted, Table.find_modify]
    split
    · rename_i own
      subst own
      simp only [Option.any_map, same]
    · rfl
  have accepted_push : ∀ (table : Table InvitationId Invitation) (invite : Invite),
      (((table.push invite.row).find i).any fun row => row.acceptedAt.isSome) =
        (table.find i).any fun row => row.acceptedAt.isSome := by
    intro table invite
    rw [Table.find_push]
    split
    · rename_i new
      rw [new, Table.find_nextKey]
      rfl
    · rfl
  have over_ : ∀ {id : InvitationId} {record : Invitation}, call = .rechecking id record ∨ call = .saving id record →
      db.hasEmail record.tenantId record.email = true → record.tenantId ≠ tenantId := by
    rintro id record (rfl | rfl) taken own <;>
      rw [SeatsCall.lost, taken, Bool.and_true, decide_eq_false_iff_not] at kept <;> exact kept own
  cases call with
  | locking invite =>
    simp only [runSeats] at made
    split at made <;> cases made
    rfl
  | hashing | rehashing | counting =>
    cases made
    rfl
  | resolving invite counted read =>
    simp only [runSeats] at made
    split at made
    · split at made <;> cases made <;> rfl
    · cases made
      rfl
  | checking invite counted limit =>
    simp only [runSeats] at made
    split at made <;> cases made <;> rfl
  | creating invite counted limit =>
    cases made
    have same : ({ db.release (.creating invite counted limit) with
        invitations := (db.invitations.updateMany
          (fun q => q.2.tenantId = invite.tenantId && q.2.email = invite.email && q.2.pending)
          fun row => { row with revokedAt := some db.clock }).push invite.row } : SeatsDb).accepted i =
        db.accepted i := by
      rw [SeatsDb.accepted, accepted_push, Table.find_updateMany, Option.any_map, SeatsDb.accepted]
      congr 2
      refine congrArg₂ _ (funext fun row => ?_) rfl
      change (if _ then { row with revokedAt := some db.clock } else row : Invitation).acceptedAt.isSome = _
      split <;> rfl
    rw [same]
    rfl
  | replacing id original =>
    cases made
    have same := accepted_modify (f := fun row => { row with revokedAt := some db.clock }) (k := id) fun _ => rfl
    rw [same]
    rfl
  | recreating invite =>
    simp only [runSeats] at made
    split at made <;> cases made
    · rfl
    · rw [SeatsDb.accepted, SeatsDb.accepted, accepted_push]
      rfl
  | revoking other id =>
    cases made
    rw [accepted_modify fun row => by split <;> rfl]
    rfl
  | marking id record =>
    obtain ⟨row, found, -⟩ := known
    simp only [runSeats, found, Option.any_some] at made
    split at made
    · rename_i pending
      cases made
      simp only [Invitation.pending, Bool.and_eq_true, decide_eq_true_eq] at pending
      simp only [SeatsDb.accepted, SeatsDb.createdVia, SeatsCall.accepting, Option.map_some, Option.getD_some,
        Table.find_modify]
      by_cases own : id = i
      · subst own
        simp [found, pending.1]
      · simp [own, Ne.symm own]
    · cases made
      rfl
  | rechecking id record =>
    simp only [runSeats] at made
    split at made <;> cases made
    · rename_i taken
      rw [SeatsCall.accepting, accepting_apart here (over_ (.inl rfl) taken) known]
      rfl
    · rfl
  | saving id record =>
    simp only [runSeats] at made
    split at made <;> cases made
    · rename_i taken
      rw [SeatsCall.accepting, accepting_apart here (over_ (.inr rfl) taken) known]
      rfl
    · simp only [SeatsDb.createdVia, SeatsDb.accepted, Table.sum_push, SeatsCall.accepting, Option.map_none,
        Option.getD_none, add_zero, Option.some.injEq]
  | ofUsers users =>
    cases made
    have edited : ∀ (members : Table UserId Member) (k : UserId) (f : TenantUser → TenantUser),
        (members.modify k (Member.edit f)).sum (fun member => if member.viaInvitationId = some i then 1 else 0) =
          members.sum fun member => if member.viaInvitationId = some i then 1 else 0 :=
      fun members k f => Table.sum_modify_same fun _ _ => rfl
    have idle : (((stepMembers db.members users).2.map SeatsCall.ofUsers).map (SeatsCall.accepting i)).getD 0 =
        0 := by
      cases (stepMembers db.members users).2 <;> rfl
    rw [idle]
    cases users <;> simp only [SeatsDb.createdVia, SeatsDb.accepted, SeatsCall.accepting, stepMembers, edited]
  | changing other capacity =>
    cases made
    rfl

/-! ### Runs -/

/-- What every state keeps: the seats within the limit, and the acceptances. -/
structure SeatsHold (tenantId : TenantId) (s : State SeatsDb SeatsCall) : Prop where
  within : ∀ limit ∈ (s.db.capacity tenantId).limit, seatsTaken tenantId s s.db.clock ≤ limit
  known : ∀ call ∈ s.running, call.Known s.db
  accepted : AcceptedOnce tenantId s

theorem enterSeats_idle (tenantId : TenantId) (i : InvitationId) {request : SeatsRequest} (entered : enterSeats db request = some call) :
    call.Known db ∧ call.acceptingIn tenantId = 0 ∧ call.accepting i = 0 := by
  cases request with
  | create other email role =>
    simp only [enterSeats] at entered
    split at entered <;> cases entered
    exact ⟨trivial, rfl, rfl⟩
  | resend other id =>
    obtain ⟨row, -, rfl⟩ := Option.map_eq_some_iff.mp entered
    split <;> exact ⟨trivial, rfl, rfl⟩
  | revoke other id =>
    cases entered
    exact ⟨trivial, rfl, rfl⟩
  | accept id secretMatches =>
    obtain ⟨row, found, rfl⟩ := Option.map_eq_some_iff.mp entered
    exact ⟨⟨row, (Option.filter_eq_some_iff.mp found).1, rfl⟩, rfl, rfl⟩
  | users actor request =>
    simp only [enterSeats] at entered
    split at entered <;> cases entered
    exact ⟨trivial, rfl, rfl⟩
  | changeCapacity other capacity =>
    cases entered
    exact ⟨trivial, rfl, rfl⟩

theorem limitLe_le {limit limit' : Option ℤ} {n : ℤ} (le : limitLe limit limit' = true) (mem : n ∈ limit') :
    ∃ m ∈ limit, m ≤ n := by
  rw [Option.mem_def] at mem
  rw [limitLe, mem, Option.all_some] at le
  obtain ⟨m, found, small⟩ := (Option.any_eq_true _ _).mp le
  exact ⟨m, found, of_decide_eq_true small⟩

theorem runSeats_capacity (made : runSeats db plan call = some (db', rest))
    (other : ∀ capacity, call ≠ .changing tenantId capacity) : db'.capacity tenantId = db.capacity tenantId := by
  cases call with
  | changing owner capacity =>
    cases made
    refine Function.update_of_ne ?_ _ _
    rintro rfl
    exact other capacity rfl
  | locking => simp only [runSeats] at made; split at made <;> cases made; rfl
  | resolving =>
    simp only [runSeats] at made
    split at made
    · split at made <;> cases made <;> rfl
    · cases made
      rfl
  | checking => simp only [runSeats] at made; split at made <;> cases made <;> rfl
  | recreating => simp only [runSeats] at made; split at made <;> cases made <;> rfl
  | marking => simp only [runSeats] at made; split at made <;> cases made <;> rfl
  | rechecking => simp only [runSeats] at made; split at made <;> cases made <;> rfl
  | saving => simp only [runSeats] at made; split at made <;> cases made <;> rfl
  | hashing | rehashing | counting => cases made; rfl
  | creating => cases made; rfl
  | replacing => cases made; rfl
  | revoking => cases made; rfl
  | ofUsers => cases made; rfl

theorem seatsInTurn_room (known : call.Known db) (inTurn : seatsInTurn tenantId ⟨db, running⟩ call input = true)
    (goes : input.stops = false)
    (within : ∀ limit ∈ (db.capacity tenantId).limit, seatsTaken tenantId ⟨db, running⟩ input.moment ≤ limit)
    (made : runSeats { db with clock := input.moment } plan call = some (db', rest)) :
    ∀ limit ∈ (db'.capacity tenantId).limit, seatsTaken tenantId ⟨db, running⟩ input.moment +
      (if db.takes tenantId input.moment call then 1 else 0) ≤ limit := by
  have below : (∀ capacity, call ≠ .changing tenantId capacity) → (db.takes tenantId input.moment call = true →
      ∀ limit ∈ (db.capacity tenantId).limit, seatsTaken tenantId ⟨db, running⟩ input.moment < limit) →
      ∀ limit ∈ (db'.capacity tenantId).limit, seatsTaken tenantId ⟨db, running⟩ input.moment +
        (if db.takes tenantId input.moment call then 1 else 0) ≤ limit := by
    intro other room limit mem
    rw [runSeats_capacity made other] at mem
    have held := within limit mem
    split
    · rename_i takes
      have := room takes limit mem
      omega
    · omega
  have outside : (!db.takes tenantId input.moment call ||
      (db.capacity tenantId).limit.all fun limit => seatsTaken tenantId ⟨db, running⟩ input.moment < limit) = true →
      db.takes tenantId input.moment call = true →
      ∀ limit ∈ (db.capacity tenantId).limit, seatsTaken tenantId ⟨db, running⟩ input.moment < limit := by
    intro free takes limit mem
    rw [Option.mem_def] at mem
    rw [takes, Bool.not_true, Bool.false_or, mem, Option.all_some] at free
    exact of_decide_eq_true free
  cases call with
  | creating invite counted limit =>
    refine below (nofun) fun takes n mem => ?_
    simp only [seatsInTurn, goes, Bool.or_eq_true, Bool.and_eq_true, decide_eq_true_eq] at inTurn
    rcases inTurn with other | ⟨counts, le⟩
    · exact (other (of_decide_eq_true takes)).elim
    · obtain ⟨m, found, small⟩ := limitLe_le le mem
      rw [Option.mem_def] at found
      have allowed : assertCanCreate limit counted = true := known
      rw [assertCanCreate, found, Option.any_some, Bool.not_eq_true', decide_eq_false_iff_not] at allowed
      omega
  | changing other capacity =>
    cases made
    simp only [seatsInTurn, goes, Bool.or_eq_true, decide_eq_true_eq] at inTurn
    intro n mem
    change n ∈ (Function.update db.capacity other capacity tenantId).limit at mem
    simp only [SeatsDb.takes, Bool.false_eq_true, if_false, add_zero]
    rcases inTurn with strange | le
    · rw [Function.update_of_ne (Ne.symm strange)] at mem
      exact within n mem
    · by_cases own : tenantId = other
      · subst own
        rw [Function.update_self] at mem
        obtain ⟨m, found, small⟩ := limitLe_le le mem
        exact (within m found).trans small
      · rw [Function.update_of_ne own] at mem
        exact within n mem
  | recreating | marking | ofUsers =>
    refine below (nofun) (outside ?_)
    simpa only [seatsInTurn, goes] using inTurn
  | _ => exact below (nofun) fun takes => (Bool.false_ne_true takes).elim

theorem runSeats_notElsewhere (stay : InvitationsStay db db') (here : db'.elsewhere tenantId i = false) :
    db.elsewhere tenantId i = false := by
  cases found : db.invitations.find i with
  | none => rw [SeatsDb.elsewhere, found, Option.any_none]
  | some row =>
    obtain ⟨row', found', tenant⟩ := stay i row found
    rw [SeatsDb.elsewhere, found', Option.any_some, tenant] at here
    rw [SeatsDb.elsewhere, found, Option.any_some, here]

theorem seatsHold_stop {n : ℕ} (held : SeatsHold tenantId ⟨db, running⟩) (later : db.clock ≤ now)
    (found : running[n]? = some call)
    (gone : ∀ id record, call = .rechecking id record ∨ call = .saving id record → record.tenantId ≠ tenantId) :
    SeatsHold tenantId ⟨({ db with clock := now } : SeatsDb).release call, resume running n none⟩ := by
  have known := held.known call (List.mem_of_getElem? found)
  refine ⟨fun limit mem => ?_, fun other mem => ?_, fun i here => ?_⟩
  · have before := held.within limit mem
    have sum := sum_resume (SeatsCall.acceptingIn tenantId) found none
    have nonneg := acceptingIn_nonneg tenantId call
    have fewer := liveInvitations_le db tenantId later
    change db.activeUsers tenantId + db.liveInvitations tenantId now +
      ((resume running n none).map (SeatsCall.acceptingIn tenantId)).sum ≤ limit
    simp only [seatsTaken, Option.map_none, Option.getD_none] at before sum
    omega
  · have mem : other ∈ resume running n none := mem
    rcases mem_resume mem with mem | same
    · exact (held.known other mem).stay fun i row there => ⟨row, there, rfl⟩
    · cases same
  · have before := held.accepted i here
    have sum := sum_resume (SeatsCall.accepting i) found none
    have idle := accepting_elsewhere known here gone
    change db.createdVia i + ((resume running n none).map (SeatsCall.accepting i)).sum = db.accepted i
    simp only [Option.map_none, Option.getD_none] at before sum
    omega

theorem seatsHold_next {n : ℕ} (held : SeatsHold tenantId ⟨db, running⟩)
    (inTurn : seatsInTurn tenantId ⟨db, running⟩ call input = true) (found : running[n]? = some call)
    (made : stepSeats db call input = some (db', rest)) :
    SeatsHold tenantId ⟨db', resume running n rest⟩ := by
  have known := held.known call (List.mem_of_getElem? found)
  simp only [stepSeats] at made
  split at made
  · cases made
  · rename_i later
    have later := le_of_not_gt later
    split at made
    · rename_i stops
      cases made
      refine seatsHold_stop held later found fun id record same => ?_
      rcases same with rfl | rfl <;> simpa [seatsInTurn, stops] using inTurn
    · rename_i goes
      have goes : input.stops = false := eq_false_of_ne_true goes
      have known' : call.Known { db with clock := input.moment } :=
        known.stay fun i row there => ⟨row, there, rfl⟩
      obtain ⟨stay, knownNext⟩ := runSeats_stay known' made
      have stay : InvitationsStay db db' := stay
      have fewer := liveInvitations_le db tenantId later
      refine ⟨fun limit mem => ?_, fun other mem => ?_, fun i here => ?_⟩
      · have room := seatsInTurn_room known inTurn goes (fun limit mem => by
          have before := held.within limit mem
          simp only [seatsTaken] at before ⊢
          omega) made limit mem
        obtain ⟨clock, seats⟩ := runSeats_seats tenantId known' made
        have sum := sum_resume (SeatsCall.acceptingIn tenantId) found rest
        have same : ({ db with clock := input.moment } : SeatsDb).takes tenantId input.moment call =
            db.takes tenantId input.moment call := by cases call <;> rfl
        have start : ({ db with clock := input.moment } : SeatsDb).seats tenantId (some call) =
            db.activeUsers tenantId + db.liveInvitations tenantId input.moment +
              call.acceptingIn tenantId := rfl
        rw [same, start] at seats
        simp only [seatsTaken, SeatsDb.seats] at seats room ⊢
        omega
      · rcases mem_resume mem with mem | goesOn
        · exact (held.known other mem).stay stay
        · exact knownNext other goesOn
      · have notElsewhere := runSeats_notElsewhere stay here
        have before := held.accepted i notElsewhere
        have kept : call.lost tenantId { db with clock := input.moment } = false := by
          cases call with
          | rechecking id record | saving id record =>
            simp only [seatsInTurn, goes, Bool.or_eq_true, decide_eq_true_eq, Bool.not_eq_true'] at inTurn
            rcases inTurn with other | free
            · exact Bool.and_eq_false_iff.mpr (.inl (decide_eq_false other))
            · exact Bool.and_eq_false_iff.mpr (.inr free)
          | _ => rfl
        have change := runSeats_accepted known' notElsewhere kept made
        have sum := sum_resume (SeatsCall.accepting i) found rest
        have start : ({ db with clock := input.moment } : SeatsDb).createdVia i = db.createdVia i := rfl
        have start' : ({ db with clock := input.moment } : SeatsDb).accepted i = db.accepted i := rfl
        rw [start, start'] at change
        simp only at before ⊢
        omega

/-- The active users and the live invitations of a tenant stay within its limit, and an invitation of it is
accepted if and only if its user is created or about to be. -/
theorem seats_hold (within : ∀ limit ∈ (db.capacity tenantId).limit,
      db.activeUsers tenantId + db.liveInvitations tenantId db.clock ≤ limit)
    (accepted : ∀ i, db.elsewhere tenantId i = false → db.createdVia i = db.accepted i)
    (run : Run seatsSystem.step (System.admitsIn fun s call input => seatsInTurn tenantId s call input = true)
      ⟨db, []⟩ t) :
    (∀ limit ∈ (t.db.capacity tenantId).limit,
      t.db.activeUsers tenantId + t.db.liveInvitations tenantId t.db.clock ≤ limit) ∧
    ∀ i, t.db.elsewhere tenantId i = false →
      t.db.createdVia i + (t.running.map (SeatsCall.accepting i)).sum = t.db.accepted i := by
  have start : SeatsHold tenantId ⟨db, []⟩ := by
    refine ⟨fun limit mem => ?_, fun _ mem => (List.not_mem_nil mem).elim, fun i here => ?_⟩
    · have before := within limit mem
      simp only [seatsTaken, List.map_nil, List.sum_nil]
      omega
    · have before := accepted i here
      simp only [List.map_nil, List.sum_nil]
      omega
  have held : SeatsHold tenantId t := by
    refine System.invariant_in run start (fun {db running request call} held entered => ?_)
      fun held inTurn found made => seatsHold_next held inTurn found made
    have idle := fun i => enterSeats_idle tenantId i entered
    refine ⟨fun limit mem => ?_, fun other mem => ?_, fun i here => ?_⟩
    · have before := held.within limit mem
      have none_ := (idle 0).2.1
      simp only [seatsTaken, List.map_append, List.map_singleton, List.sum_append, List.sum_singleton] at before ⊢
      omega
    · rcases List.mem_append.mp mem with mem | mem
      · exact held.known other mem
      · rw [List.mem_singleton.mp mem]
        exact (idle 0).1
    · have before := held.accepted i here
      have none_ := (idle i).2.2
      simp only [List.map_append, List.map_singleton, List.sum_append, List.sum_singleton] at before ⊢
      omega
  refine ⟨fun limit mem => ?_, held.accepted⟩
  have all := held.within limit mem
  have nonneg : 0 ≤ (t.running.map (SeatsCall.acceptingIn tenantId)).sum :=
    List.sum_nonneg fun x mem => by
      obtain ⟨call, -, rfl⟩ := List.mem_map.mp mem
      exact acceptingIn_nonneg tenantId call
  rw [seatsTaken] at all
  omega

/-! ### A tenant with two seats -/

def staffRole : AssignableRole := ⟨.staff, by decide⟩

def seatMember (role : UserRole) (isActive : Bool) (email : String) : Member :=
  ⟨⟨0, role, none, isActive⟩, email, none⟩

def twoSeats (members : Table UserId Member) : SeatsDb :=
  { members, invitations := Table.empty, capacity := fun _ => ⟨some 2, []⟩, locks := [], clock := 0 }

def seatsRequest (moment : Instant) (request : SeatsRequest) (steps : ℕ) :
    List (Action SeatsRequest SeatsInput) :=
  .start request :: (List.range steps).map fun n => .advance 0 ⟨moment, false, n = 3⟩

def seatsOf (tenantId : TenantId) (s : State SeatsDb SeatsCall) : ℤ :=
  s.db.activeUsers tenantId + s.db.liveInvitations tenantId s.db.clock

theorem seats_hold_accepted : ∃ t : State SeatsDb SeatsCall,
    (seatsOf 0 t = 2 ∧ t.db.createdVia 1 = 1 ∧ t.running.length = 0) ∧
    (∀ limit ∈ (t.db.capacity 0).limit, t.db.activeUsers 0 + t.db.liveInvitations 0 t.db.clock ≤ limit) ∧
    ∀ i, t.db.elsewhere 0 i = false →
      t.db.createdVia i + (t.running.map (SeatsCall.accepting i)).sum = t.db.accepted i := by
  obtain ⟨t, run, reached⟩ := Run.exists_of_exec seatsSystem.step
    (System.admitsIn fun s call input => seatsInTurn 0 s call input = true)
    ⟨twoSeats (Table.empty.push (seatMember .owner true "owner")), []⟩
    (seatsRequest 1 (.create 0 "new" staffRole) 7 ++ seatsRequest 2 (.resend 0 0) 3 ++
      seatsRequest 3 (.accept 1 true) 3)
    (fun t => seatsOf 0 t = 2 ∧ t.db.createdVia 1 = 1 ∧ t.running.length = 0) (by decide +kernel)
  refine ⟨t, of_decide_eq_true reached, seats_hold (fun limit mem => ?_) (fun i _ => rfl) run⟩
  cases mem
  decide

/-- A revoked invitation resent, a user made active again, and an invitation made while another is between its
mark and its user: three seats taken of two. -/
def thirdSeats : List (SeatsDb × List (Action SeatsRequest SeatsInput)) :=
  let two := (Table.empty.push (seatMember .owner true "owner")).push (seatMember .staff true "staff")
  let asleep := two.push (seatMember .staff false "asleep")
  let one := Table.empty.push (seatMember .owner true "owner")
  [(twoSeats one, seatsRequest 1 (.create 0 "a" staffRole) 7 ++ seatsRequest 2 (.revoke 0 0) 1 ++
      seatsRequest 3 (.create 0 "b" staffRole) 7 ++ seatsRequest 4 (.resend 0 0) 2),
    (twoSeats asleep, seatsRequest 1 (.users ownerToken (.update 2 ⟨none, some true⟩)) 2),
    (twoSeats one, seatsRequest 1 (.create 0 "a" staffRole) 7 ++
      [.start (.accept 0 true), .advance 0 ⟨2, false, false⟩, .start (.create 0 "b" staffRole)] ++
      (List.range 7).map (fun n => .advance 1 ⟨3, false, n = 3⟩) ++
      [.advance 0 ⟨4, false, false⟩, .advance 0 ⟨4, false, false⟩])]

/-- An expired invitation is replaced by another, which is accepted, and then resent and accepted; and an
acceptance is cut off before its user. -/
def lostAcceptances : List (List (Action SeatsRequest SeatsInput)) :=
  [seatsRequest 1 (.create 0 "a" staffRole) 7 ++ seatsRequest (invitationTtl + 2) (.create 0 "a" staffRole) 7 ++
      seatsRequest (invitationTtl + 3) (.accept 1 true) 3 ++ seatsRequest (invitationTtl + 4) (.resend 0 0) 2 ++
      seatsRequest (invitationTtl + 5) (.accept 2 true) 2,
    seatsRequest 1 (.create 0 "a" staffRole) 7 ++
      [.start (.accept 0 true), .advance 0 ⟨2, false, false⟩, .advance 0 ⟨2, true, false⟩]]

theorem seats_differ :
    (∀ run ∈ thirdSeats, seatsOf 0 ⟨run.1, []⟩ ≤ 2 ∧
      ∃ t, Reaches seatsSystem.step ⟨run.1, []⟩ t ∧ t.running.length = 0 ∧ (t.db.capacity 0).limit = some 2 ∧
        seatsOf 0 t = 3) ∧
    ∀ actions ∈ lostAcceptances, ∃ t,
      Reaches seatsSystem.step ⟨twoSeats (Table.empty.push (seatMember .owner true "owner")), []⟩ t ∧
        t.running.length = 0 ∧ ∃ i ∈ List.range 3, t.db.accepted i = 1 ∧ t.db.createdVia i = 0 := by
  have third : (thirdSeats.all fun run => seatsOf 0 ⟨run.1, []⟩ ≤ 2 &&
      (exec (fun x a => if True then seatsSystem.step x a else none) ⟨run.1, []⟩ run.2).any fun t =>
        decide (t.running.length = 0 ∧ (t.db.capacity 0).limit = some 2 ∧ seatsOf 0 t = 3)) = true := by
    decide +kernel
  have lost : (lostAcceptances.all fun actions =>
      (exec (fun x a => if True then seatsSystem.step x a else none)
        ⟨twoSeats (Table.empty.push (seatMember .owner true "owner")), []⟩ actions).any fun t =>
          decide (t.running.length = 0 ∧ ∃ i ∈ List.range 3, t.db.accepted i = 1 ∧ t.db.createdVia i = 0)) = true := by
    decide +kernel
  refine ⟨fun run mem => ?_, fun actions mem => ?_⟩
  · have reached := List.all_eq_true.mp third run mem
    rw [Bool.and_eq_true, decide_eq_true_eq] at reached
    obtain ⟨t, run', taken⟩ := Run.exists_of_exec seatsSystem.step (fun _ _ => True) ⟨run.1, []⟩ run.2
      (fun t => t.running.length = 0 ∧ (t.db.capacity 0).limit = some 2 ∧ seatsOf 0 t = 3) reached.2
    exact ⟨reached.1, t, run', of_decide_eq_true taken⟩
  · obtain ⟨t, run, gone⟩ := Run.exists_of_exec seatsSystem.step (fun _ _ => True)
      ⟨twoSeats (Table.empty.push (seatMember .owner true "owner")), []⟩ actions
      (fun t => t.running.length = 0 ∧ ∃ i ∈ List.range 3, t.db.accepted i = 1 ∧ t.db.createdVia i = 0)
      (List.all_eq_true.mp lost actions mem)
    exact ⟨t, run, of_decide_eq_true gone⟩

end StorageOS
