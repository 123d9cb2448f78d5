import StorageOS.Auth.Gates

/-! The users of the tenants and the requests that edit, deactivate and promote them
(`users/users.service.ts`). Whoever asks is checked when the request arrives, the user it is about is read
after that, and what is written afterwards reads neither of them again. -/

namespace StorageOS

open Processes

abbrev TenantRoleId := ℕ

structure TenantUser where
  tenantId : TenantId
  role : UserRole
  tenantRoleId : Option TenantRoleId
  isActive : Bool
  deriving DecidableEq

/-- An access token. Its permissions were resolved when it was issued: all of them for an owner, and those
of the role made to measure or of the role for the others; among the roles only the owner's has
`users:manage`, and a role made to measure may have any. -/
structure AccessToken where
  sub : UserId
  tenantId : TenantId
  role : UserRole
  trid : Option TenantRoleId
  managesUsers : Bool
  resolved : (role = .owner → managesUsers = true) ∧ (managesUsers = true → role = .owner ∨ trid.isSome)
  deriving DecidableEq

/-- `JwtStrategy.validate` and `PermissionsGuard` for `users:manage`. -/
def AccessToken.admitted (token : AccessToken) (users : Table UserId TenantUser) : Bool :=
  token.managesUsers && (users.find token.sub).any fun user =>
    user.isActive && user.tenantId = token.tenantId && user.role = token.role && user.tenantRoleId = token.trid

/-- The roles that `UpdateUserSchema` allows. -/
abbrev AssignableRole := { role : UserRole // role ≠ .owner }

structure UpdateUserInput where
  role : Option AssignableRole
  isActive : Option Bool
  deriving DecidableEq

def UpdateUserInput.write (input : UpdateUserInput) (user : TenantUser) : TenantUser :=
  { user with
    role := (input.role.map Subtype.val).getD user.role
    isActive := input.isActive.getD user.isActive }

inductive UsersRequest
  | update (targetUserId : UserId) (input : UpdateUserInput)
  | deactivate (targetUserId : UserId)
  | transferOwnership (toUserId : UserId)
  deriving DecidableEq

/-- A request: admitted, or about to write what it has decided. -/
inductive UsersCall
  | reading (actor : AccessToken) (request : UsersRequest)
  | updating (targetUserId : UserId) (input : UpdateUserInput)
  | deactivating (targetUserId : UserId)
  | transferring (fromUserId toUserId : UserId)
  deriving DecidableEq

/-- The checks of `update` on the user that it has read. -/
def UpdateUserInput.allowed (input : UpdateUserInput) (actorRole : UserRole) (target : TenantUser) : Bool :=
  let wantsChangeRole := input.role.any fun role => role.val ≠ target.role
  let wantsDeactivate := input.isActive = some false && target.isActive
  !(target.role = .owner && (wantsChangeRole || wantsDeactivate)) &&
    !((input.role.map Subtype.val) = some .manager && actorRole ≠ .owner)

/-- The read of the user that a request is about, and what it decides; `none` where it ends there. -/
def readTarget (users : Table UserId TenantUser) (actor : AccessToken) : UsersRequest → Option UsersCall
  | .update targetUserId input =>
    ((users.find targetUserId).filter fun target =>
      target.tenantId = actor.tenantId && input.allowed actor.role target).map
        fun _ => .updating targetUserId input
  | .deactivate targetUserId =>
    if targetUserId = actor.sub then none
    else ((users.find targetUserId).filter fun target =>
      target.tenantId = actor.tenantId && target.role ≠ .owner && target.isActive).map
        fun _ => .deactivating targetUserId
  | .transferOwnership toUserId =>
    if actor.sub = toUserId then none
    else ((users.find toUserId).filter fun target =>
      target.tenantId = actor.tenantId && target.isActive).map fun _ => .transferring actor.sub toUserId

def TenantUser.demote (user : TenantUser) : TenantUser := { user with role := .manager }

def TenantUser.promote (user : TenantUser) : TenantUser :=
  { user with role := .owner, tenantRoleId := none }

def stepUsers (users : Table UserId TenantUser) :
    UsersCall → Unit → Option (Table UserId TenantUser × Option UsersCall)
  | .reading actor request, _ => some (users, readTarget users actor request)
  | .updating targetUserId input, _ => some (users.modify targetUserId input.write, none)
  | .deactivating targetUserId, _ =>
    some (users.modify targetUserId fun user => { user with isActive := false }, none)
  -- One transaction.
  | .transferring fromUserId toUserId, _ =>
    some ((users.modify fromUserId TenantUser.demote).modify toUserId TenantUser.promote, none)

def usersSystem : System (Table UserId TenantUser) UsersCall (AccessToken × UsersRequest) Unit where
  enter users request := if request.1.admitted users then some (.reading request.1 request.2) else none
  next := stepUsers

/-! A tenant keeps exactly one owner, and active, as long as no write finds that the user it edits or
deactivates has become the owner, and a transfer finds the owner among its two users and the other active. -/

open Transition

variable {users users' : Table UserId TenantUser} {call call' : UsersCall} {rest : Option UsersCall}
  {tenantId : TenantId} {k : UserId} {user user' : TenantUser} {input : Unit}

def TenantUser.owns (user : TenantUser) (tenantId : TenantId) : Bool :=
  user.tenantId = tenantId && user.role = .owner

/-- Exactly one user of the tenant is its owner, and that user is active. -/
def OneOwner (tenantId : TenantId) (users : Table UserId TenantUser) : Prop :=
  ∃ q ∈ users.rows, (q.2.owns tenantId = true ∧ q.2.isActive = true) ∧
    ∀ q' ∈ users.rows, q'.2.owns tenantId = true → q'.1 = q.1

instance : Decidable (OneOwner tenantId users) :=
  inferInstanceAs (Decidable (∃ q ∈ users.rows, _ ∧ ∀ q' ∈ users.rows, _ → _))

def ownerKept (tenantId : TenantId) (users : Table UserId TenantUser) : UsersCall → Bool
  | .reading .. => true
  | .updating targetUserId input =>
    !(users.find targetUserId).any (·.owns tenantId) || (input.role = none && input.isActive ≠ some false)
  | .deactivating targetUserId => !(users.find targetUserId).any (·.owns tenantId)
  | .transferring fromUserId toUserId =>
    !(users.find toUserId).any (·.tenantId = tenantId) ||
      (((users.find fromUserId).any (·.owns tenantId) || (users.find toUserId).any (·.owns tenantId)) &&
        (users.find toUserId).any (·.isActive))

theorem oneOwner_iff : OneOwner tenantId users ↔ ∃ k user, users.find k = some user ∧
    (user.owns tenantId = true ∧ user.isActive = true) ∧
      ∀ k' user', users.find k' = some user' → user'.owns tenantId = true → k' = k := by
  constructor
  · rintro ⟨⟨k, user⟩, mem, owner, only⟩
    exact ⟨k, user, Table.find_of_mem mem, owner, fun k' user' found' owns' =>
      only (k', user') (Table.mem_of_find found') owns'⟩
  · rintro ⟨k, user, found, owner, only⟩
    exact ⟨(k, user), Table.mem_of_find found, owner, fun q mem owns' =>
      only q.1 q.2 (Table.find_of_mem mem) owns'⟩

def UsersCall.Known (users : Table UserId TenantUser) : UsersCall → Prop
  | .transferring fromUserId toUserId => fromUserId ≠ toUserId ∧
    ∃ actor target, users.find fromUserId = some actor ∧ users.find toUserId = some target ∧
      actor.tenantId = target.tenantId
  | .reading actor _ => ∃ user, users.find actor.sub = some user ∧ user.tenantId = actor.tenantId
  | _ => True

def UsersStay (users users' : Table UserId TenantUser) : Prop :=
  ∀ k user, users.find k = some user → ∃ user', users'.find k = some user' ∧ user'.tenantId = user.tenantId

theorem UsersCall.Known.stay (known : call.Known users) (stay : UsersStay users users') :
    call.Known users' := by
  cases call with
  | transferring fromUserId toUserId =>
    obtain ⟨apart, actor, target, hactor, htarget, same⟩ := known
    obtain ⟨actor', hactor', ha⟩ := stay _ _ hactor
    obtain ⟨target', htarget', ht⟩ := stay _ _ htarget
    exact ⟨apart, actor', target', hactor', htarget', by rw [ha, ht, same]⟩
  | reading actor request =>
    obtain ⟨user, found, same⟩ := known
    obtain ⟨user', found', tenant⟩ := stay _ _ found
    exact ⟨user', found', tenant.trans same⟩
  | updating => trivial
  | deactivating => trivial

theorem usersStay_modify {f : TenantUser → TenantUser} (keeps : ∀ user, (f user).tenantId = user.tenantId) :
    UsersStay users (users.modify k f) := by
  intro j user found
  exact Table.exists_find_modify found (fun _ => keeps user) rfl

theorem UsersStay.trans {users'' : Table UserId TenantUser} (first : UsersStay users users')
    (second : UsersStay users' users'') : UsersStay users users'' := by
  intro j user found
  obtain ⟨user', found', tenant⟩ := first j user found
  obtain ⟨user'', found'', tenant'⟩ := second j user' found'
  exact ⟨user'', found'', tenant'.trans tenant⟩

theorem readTarget_known {actor : AccessToken} {request : UsersRequest}
    (known : (UsersCall.reading actor request).Known users)
    (read : readTarget users actor request = some call) : call.Known users := by
  obtain ⟨user, found, tenant⟩ := known
  cases request with
  | update targetUserId input =>
    obtain ⟨-, -, rfl⟩ := Option.map_eq_some_iff.mp read
    trivial
  | deactivate targetUserId =>
    simp only [readTarget] at read
    split at read
    · cases read
    · obtain ⟨-, -, rfl⟩ := Option.map_eq_some_iff.mp read
      trivial
  | transferOwnership toUserId =>
    simp only [readTarget] at read
    split at read
    · cases read
    · rename_i other
      obtain ⟨target, there, rfl⟩ := Option.map_eq_some_iff.mp read
      obtain ⟨found', checks⟩ := Option.filter_eq_some_iff.mp there
      rw [Bool.and_eq_true, decide_eq_true_eq] at checks
      exact ⟨other, user, target, found, found', tenant.trans checks.1.symm⟩

/-! ### Writes -/

variable (one : OneOwner tenantId users)
include one

theorem OneOwner.modify {f : TenantUser → TenantUser}
    (makes : ∀ user, users.find k = some user → (f user).owns tenantId = true → user.owns tenantId = true)
    (keeps : ∀ user, users.find k = some user → user.owns tenantId = true → user.isActive = true →
      (f user).owns tenantId = true ∧ (f user).isActive = true) : OneOwner tenantId (users.modify k f) := by
  obtain ⟨owner, row, found, ⟨owns, active⟩, only⟩ := oneOwner_iff.mp one
  obtain ⟨row', found', owner'⟩ : ∃ row', (users.modify k f).find owner = some row' ∧
      row'.owns tenantId = true ∧ row'.isActive = true :=
    Table.exists_find_modify found (fun own => keeps row own owns active) ⟨owns, active⟩
  refine oneOwner_iff.mpr ⟨owner, row', found', owner', fun k' user' there owns' => ?_⟩
  rcases Table.find_modify_cases there with ⟨-, same⟩ | ⟨rfl, user, before, rfl⟩
  · exact only k' user' same owns'
  · exact only k' user before (makes user before owns')

theorem OneOwner.transfer {j : UserId} {target : TenantUser} (apart : j ≠ k) (found : users.find k = some target)
    (tenant : target.tenantId = tenantId)
    (owner : (users.find j).any (·.owns tenantId) = true ∨ (users.find k).any (·.owns tenantId) = true)
    (active : target.isActive = true) :
    OneOwner tenantId ((users.modify j TenantUser.demote).modify k TenantUser.promote) := by
  obtain ⟨o, row, there, -, only⟩ := oneOwner_iff.mp one
  have among : o = j ∨ o = k := by
    rcases owner with owner | owner
    · obtain ⟨actor, here, owns⟩ := (Option.any_eq_true _ _).mp owner
      exact .inl (only j actor here owns).symm
    · obtain ⟨actor, here, owns⟩ := (Option.any_eq_true _ _).mp owner
      exact .inr (only k actor here owns).symm
  have promoted : ((users.modify j TenantUser.demote).modify k TenantUser.promote).find k =
      some target.promote := by
    rw [Table.find_modify, if_pos rfl, Table.find_modify, if_neg apart.symm, found]
    rfl
  refine oneOwner_iff.mpr ⟨k, target.promote, promoted, ⟨by simp [TenantUser.owns, TenantUser.promote, tenant],
    active⟩, fun k' user' found' owns' => ?_⟩
  by_contra other
  rw [Table.find_modify, if_neg other] at found'
  rcases Table.find_modify_cases found' with ⟨notFrom, same⟩ | ⟨rfl, user, -, rfl⟩
  · rcases among with rfl | rfl
    · exact notFrom (only k' user' same owns')
    · exact other (only k' user' same owns')
  · simp [TenantUser.owns, TenantUser.demote] at owns'

theorem OneOwner.transfer_elsewhere {j : UserId} {actor target : TenantUser} (apart : j ≠ k)
    (from_ : users.find j = some actor) (found : users.find k = some target)
    (same : actor.tenantId = target.tenantId) (elsewhere : target.tenantId ≠ tenantId) :
    OneOwner tenantId ((users.modify j TenantUser.demote).modify k TenantUser.promote) := by
  have strange : ∀ user : TenantUser, user.tenantId ≠ tenantId → user.owns tenantId = false := by
    intro user other
    rw [TenantUser.owns, decide_eq_false other, Bool.false_and]
  have demoted : OneOwner tenantId (users.modify j TenantUser.demote) := by
    refine one.modify (fun user _ owns => ?_) fun user there owns => ?_
    · simp [TenantUser.owns, TenantUser.demote] at owns
    · rw [from_] at there
      cases there
      rw [strange actor (same.trans_ne elsewhere)] at owns
      cases owns
  refine demoted.modify (fun user there owns => ?_) fun user there owns => ?_ <;>
    rw [Table.find_modify, if_neg apart.symm, found] at there <;> cases there
  · rw [strange target.promote elsewhere] at owns
    cases owns
  · rw [strange target elsewhere] at owns
    cases owns

theorem stepUsers_oneOwner (known : call.Known users) (kept : ownerKept tenantId users call = true)
    (made : stepUsers users call input = some (users', rest)) :
    OneOwner tenantId users' ∧ UsersStay users users' ∧ ∀ call', rest = some call' → call'.Known users' := by
  cases call with
  | reading actor request =>
    cases made
    exact ⟨one, fun _ user found => ⟨user, found, rfl⟩, fun call' read => readTarget_known known read⟩
  | updating targetUserId edit =>
    cases made
    refine ⟨?_, usersStay_modify fun _ => rfl, nofun⟩
    simp only [ownerKept, Bool.or_eq_true, Bool.and_eq_true, Bool.not_eq_true', decide_eq_true_eq] at kept
    rcases kept with other | ⟨noRole, stays⟩
    · refine one.modify (fun user found owns => ?_) fun user found owns => ?_
      · clear other
        obtain ⟨role, isActive⟩ := edit
        cases role with
        | none => exact owns
        | some role => simp [TenantUser.owns, UpdateUserInput.write, role.property] at owns
      · rw [found, Option.any_some, owns] at other
        cases other
    · have same : ∀ user, (edit.write user).owns tenantId = user.owns tenantId := fun user => by
        rw [TenantUser.owns, UpdateUserInput.write, noRole]
        rfl
      refine one.modify (fun user _ owns => same user ▸ owns) fun user _ owns active => ⟨same user ▸ owns, ?_⟩
      rw [UpdateUserInput.write]
      cases written : edit.isActive with
      | none => exact active
      | some value =>
        cases value with
        | true => rfl
        | false => exact (stays written).elim
  | deactivating targetUserId =>
    cases made
    refine ⟨?_, usersStay_modify fun _ => rfl, nofun⟩
    simp only [ownerKept, Bool.not_eq_true'] at kept
    refine one.modify (fun user _ owns => owns) fun user found owns => ?_
    rw [found, Option.any_some, owns] at kept
    cases kept
  | transferring fromUserId toUserId =>
    cases made
    obtain ⟨apart, actor, target, hactor, htarget, same⟩ := known
    refine ⟨?_, (usersStay_modify (f := TenantUser.demote) fun _ => rfl).trans
      (usersStay_modify (f := TenantUser.promote) fun _ => rfl), nofun⟩
    by_cases tenant : target.tenantId = tenantId
    · rw [ownerKept, Bool.or_eq_true, Bool.and_eq_true, Bool.or_eq_true, htarget] at kept
      rcases kept with elsewhere | ⟨owner, active⟩
      · simp [tenant] at elsewhere
      · exact one.transfer apart htarget tenant (by rwa [htarget]) active
    · exact one.transfer_elsewhere apart hactor htarget same tenant

omit one

/-- A tenant with one owner, and active, keeps it so in every run whose writes meet the condition. -/
theorem users_one_owner {t : State (Table UserId TenantUser) UsersCall} (one : OneOwner tenantId users)
    (run : Run usersSystem.step (System.admits fun db call _ => ownerKept tenantId db call = true)
      ⟨users, []⟩ t) : OneOwner tenantId t.db := by
  refine (System.invariant (P := OneOwner tenantId) (Q := fun db call => call.Known db) run one
    (fun _ mem => (List.not_mem_nil mem).elim) (fun _ entered => ?_) fun held known kept made => ?_).1
  · simp only [usersSystem] at entered
    split at entered
    · rename_i admitted
      cases entered
      rw [AccessToken.admitted, Bool.and_eq_true] at admitted
      obtain ⟨user, found, checks⟩ := (Option.any_eq_true _ _).mp admitted.2
      simp only [Bool.and_eq_true, decide_eq_true_eq] at checks
      exact ⟨user, found, checks.1.1.2⟩
    · cases entered
  · obtain ⟨held', stay, known'⟩ := stepUsers_oneOwner held known kept made
    exact ⟨held', known', fun _ other => other.stay stay⟩

/-! ### An owner, a manager with a role made to measure, and another user -/

def ownedUsers : Table UserId TenantUser :=
  ((Table.empty.push ⟨0, .owner, none, true⟩).push ⟨0, .manager, some 0, true⟩).push ⟨0, .staff, none, true⟩

def ownerToken : AccessToken := ⟨0, 0, .owner, none, true, by decide⟩

def managerToken : AccessToken := ⟨1, 0, .manager, some 0, true, by decide⟩

def inTurns (requests : List (AccessToken × UsersRequest)) : List (Action (AccessToken × UsersRequest) Unit) :=
  requests.flatMap fun request => [.start request, .advance 0 (), .advance 0 ()]

def overlapped (first second : AccessToken × UsersRequest) : List (Action (AccessToken × UsersRequest) Unit) :=
  [.start first, .start second, .advance 0 (), .advance 1 (), .advance 0 (), .advance 0 ()]

theorem users_one_owner_transferred : ∃ t : State (Table UserId TenantUser) UsersCall,
    t.db.values.map (fun user => (user.role, user.isActive)) =
      [(.staff, true), (.owner, true), (.staff, false)] ∧ OneOwner 0 t.db := by
  obtain ⟨t, run, users⟩ := Run.exists_of_exec usersSystem.step
    (System.admits fun db call _ => ownerKept 0 db call = true) ⟨ownedUsers, []⟩
    (inTurns [(ownerToken, .transferOwnership 1), (⟨1, 0, .owner, none, true, by decide⟩, .deactivate 2),
      (⟨1, 0, .owner, none, true, by decide⟩, .update 0 ⟨some ⟨.staff, by decide⟩, none⟩)])
    (fun t => t.db.values.map (fun user => (user.role, user.isActive)) =
      [(.staff, true), (.owner, true), (.staff, false)]) (by decide +kernel)
  exact ⟨t, of_decide_eq_true users, users_one_owner (by decide) run⟩

/-- Two transfers of the owner at once, a transfer beside a deactivation, one beside a change of role, and one by
a user who is not the owner. -/
def againstTheOwner : List (List (Action (AccessToken × UsersRequest) Unit)) :=
  [overlapped (ownerToken, .transferOwnership 1) (ownerToken, .transferOwnership 2),
    overlapped (ownerToken, .transferOwnership 2) (managerToken, .deactivate 2),
    overlapped (ownerToken, .transferOwnership 2) (managerToken, .update 2 ⟨some ⟨.readonly, by decide⟩, none⟩),
    inTurns [(managerToken, .transferOwnership 2)]]

theorem users_owners_differ : OneOwner 0 ownedUsers ∧ ∀ actions ∈ againstTheOwner,
    ∃ t, Reaches usersSystem.step ⟨ownedUsers, []⟩ t ∧ t.running = [] ∧ ¬OneOwner 0 t.db := by
  refine ⟨by decide, fun actions mem => ?_⟩
  have replayed : (againstTheOwner.all fun actions =>
      (exec (fun x a => if True then usersSystem.step x a else none) ⟨ownedUsers, []⟩ actions).any
        fun t => decide (t.running = [] ∧ ¬OneOwner 0 t.db)) = true := by decide +kernel
  obtain ⟨t, run, differ⟩ := Run.exists_of_exec usersSystem.step (fun _ _ => True) ⟨ownedUsers, []⟩ actions
    (fun t => t.running = [] ∧ ¬OneOwner 0 t.db) (List.all_eq_true.mp replayed actions mem)
  exact ⟨t, run, of_decide_eq_true differ⟩

end StorageOS
