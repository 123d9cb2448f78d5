import StorageOS.Access.Credentials

/-! Revocations under any interleaving of requests on credentials: a revoked credential stays revoked
and opens no more, in the runs where no request writes over a revocation that came after its read. -/

namespace StorageOS

open Transition Processes

/-- The status of a revoked credential is not written over: a resumption does not find it among the
credentials it collected, nor a verification when it marks the credential as expired. -/
def keepsRevoked (db : AccessDb) : AccessCall → Bool
  | .reactivating ids _ => ids.all fun id => db.status id ≠ some .revoked
  | .lapsing id => db.status id ≠ some .revoked
  | .marking p => !p.spent || db.status p.id ≠ some .revoked
  | _ => true

/-- Revoked credentials are revoked, and none of them opened for a verification that began after its
revocation. -/
structure AccessDb.RevocationFinal (db : AccessDb) : Prop where
  stays : ∀ id ∈ db.revocations, db.status id = some .revoked
  closed : ∀ o ∈ db.openings, o.late = false

/-- A request that has passed the checks read its credential before any revocation of it. -/
def AccessCall.Timely (call : AccessCall) : Prop := ∀ p, call.presented = some p → p.late = false

variable {db db' : AccessDb} {call : AccessCall} {input : AccessInput} {rest : Option AccessCall}

theorem status_update (id j : CredentialId) (f : AccessCredential → AccessCredential) :
    (db.update id f).status j =
      if j = id then (db.credentials.find j).map fun c => (f c).status else db.status j := by
  rw [AccessDb.status, AccessDb.update, Table.find_modify]
  split
  · rw [Option.map_map]
    rfl
  · rfl

theorem status_updateMany (p : CredentialId × AccessCredential → Bool)
    (f : AccessCredential → AccessCredential) (j : CredentialId) :
    (db.updateMany p f).status j =
      (db.credentials.find j).map fun c => if p (j, c) then (f c).status else c.status := by
  rw [AccessDb.status, AccessDb.updateMany, Table.find_updateMany, Option.map_map]
  congr 1
  funext c
  simp only [Function.comp_apply]
  split <;> rfl

theorem find_of_status {id : CredentialId} {status : AccessCredentialStatus}
    (h : db.status id = some status) : ∃ c, db.credentials.find id = some c ∧ c.status = status :=
  Option.map_eq_some_iff.mp h

variable {f : AccessCredential → AccessCredential}

theorem revoked_update_active {id j : CredentialId} (revoked : db.status j = some .revoked)
    (other : db.status id ≠ some .revoked) :
    (db.update id f).status j = some .revoked := by
  rw [status_update, if_neg]
  · exact revoked
  · rintro rfl
    exact other revoked

theorem revoked_update {id j : CredentialId} (revoked : db.status j = some .revoked)
    (kept : j = id → ∀ c, (f c).status = .revoked ∨ (f c).status = c.status) :
    (db.update id f).status j = some .revoked := by
  rw [status_update]
  split
  · rename_i same
    obtain ⟨c, found, status⟩ := find_of_status revoked
    rw [found]
    rcases kept same c with h | h
    · simp [h]
    · simp [h, status]
  · exact revoked

theorem revoked_updateMany {p : CredentialId × AccessCredential → Bool} {j : CredentialId}
    (revoked : db.status j = some .revoked)
    (skips : ∀ c, db.credentials.find j = some c → c.status = .revoked → p (j, c) = false) :
    (db.updateMany p f).status j = some .revoked := by
  obtain ⟨c, found, status⟩ := find_of_status revoked
  rw [status_updateMany, found]
  simp [skips c found status, status]

theorem AccessMove.revoked {j : CredentialId} (keeps : keepsRevoked db call = true)
    (revoked : db.status j = some .revoked) (move : AccessMove db call input db' rest) :
    db'.status j = some .revoked := by
  cases move with
  | suspends =>
    refine revoked_updateMany revoked fun c found status => ?_
    simp [status]
  | suspendsOne active => exact revoked_update_active revoked (by simp [active])
  | @resumes ids =>
    refine revoked_updateMany revoked fun c found status => ?_
    simp only [keepsRevoked, List.all_eq_true] at keeps
    simp only [decide_eq_false_iff_not]
    intro collected
    simpa [revoked] using keeps j collected
  | revokes => exact revoked_update revoked fun _ _ => .inl rfl
  | expires active =>
    exact revoked_update_active (f := AccessCredential.expire) revoked (by simp [active])
  | @lapses id =>
    exact revoked_update_active (f := AccessCredential.expire) revoked
      (by simpa [keepsRevoked] using keeps)
  | claims => exact revoked_update revoked fun _ _ => .inr rfl
  | returns =>
    refine revoked_update revoked fun _ c => .inr ?_
    split <;> rfl
  | @marks p =>
    refine revoked_update revoked fun same c => .inr ?_
    subst same
    have unspent : p.spent = false := by simpa [keepsRevoked, revoked] using keeps
    simp [Passed.mark, unspent]
  | _ => exact revoked

theorem unrevoked_of_active (final : db.RevocationFinal) {id : CredentialId} {c : AccessCredential}
    (found : db.credentials.find id = some c) (active : c.status = .active) :
    id ∉ db.revocations := by
  intro mem
  have revoked := final.stays id mem
  rw [AccessDb.status, found, Option.map_some, active] at revoked
  cases revoked

theorem AccessDb.RevocationFinal.move (final : db.RevocationFinal) (timely : call.Timely)
    (keeps : keepsRevoked db call = true) (move : AccessMove db call input db' rest) :
    db'.RevocationFinal := by
  have stays : ∀ id ∈ db.revocations, db'.status id = some .revoked :=
    fun id mem => move.revoked keeps (final.stays id mem)
  cases move with
  | @revokes id ids _ c found =>
    refine ⟨fun j mem => ?_, final.closed⟩
    rcases List.mem_cons.mp mem with rfl | mem
    · show (db.update j (AccessCredential.revoke input.now)).status j = some .revoked
      rw [status_update, if_pos rfl, found]
      rfl
    · exact stays j mem
  | @opens p =>
    refine ⟨stays, fun o mem => ?_⟩
    rcases List.mem_cons.mp mem with rfl | mem
    · exact timely p rfl
    · exact final.closed o mem
  | _ => exact ⟨stays, final.closed⟩


/-! ### Runs -/

/-- No request is under way, and the revoked credentials are revoked. -/
structure AccessQuiet (s : State AccessDb AccessCall) : Prop where
  running : s.running = []
  final : s.db.RevocationFinal

/-- In every run in which no request writes over a revocation, a revoked credential stays revoked and
no lock opens for a reading of it that came after its revocation. -/
theorem revocations_final {s t : State AccessDb AccessCall} (quiet : AccessQuiet s)
    (run : Run accessSystem.step
      (System.admits fun db r _ => keepsRevoked db r = true) s t) : t.db.RevocationFinal := by
  have all := System.invariant (P := AccessDb.RevocationFinal) (Q := fun _ r => r.Timely) run
    quiet.final (by simp [quiet.running])
    (fun final entered p passed => by
      obtain ⟨-, found, active, late⟩ := enterAccess_presented entered passed
      rw [late, decide_eq_false_iff_not]
      exact unrevoked_of_active final found active)
    (fun {db r input db' rest} final timely keeps made => by
      have move := nextAccess_move db r input
      simp only [accessSystem, Option.some.injEq] at made
      rw [made] at move
      refine ⟨final.move timely keeps move, fun r' same p passed => ?_, fun _ other => other⟩
      subst same
      exact timely p (move.presented passed))
  exact all.1

def lostPin : AccessCredential where
  customerId := some 1
  status := .suspended
  allowedFacilityIds := []
  allowedUnitIds := []
  extra := false
  maxUses := none
  usesCount := 0
  suspendReason := some "Tarjeta perdida"
  validFrom := none
  expiresAt := none
  suspendedAt := some 0
  revokedAt := none
  lastUsedAt := none

def pinLost : State AccessDb AccessCall := ⟨⟨Table.empty.push lostPin, [], [], []⟩, []⟩

theorem pinLost_quiet : AccessQuiet pinLost :=
  ⟨rfl, by simp [pinLost], by simp [pinLost]⟩

def frontDoor : AccessDevice := ⟨1, none, true⟩

/-- The PIN is resumed and opens; after its revocation a resumption finds nothing to resume and the
PIN is denied. -/
theorem revocations_final_pin :
    ∃ t : State AccessDb AccessCall, t.db.revocations = [0] ∧ t.db.openings = [⟨0, false⟩] ∧
      t.db.RevocationFinal := by
  obtain ⟨t, run, left⟩ := Run.exists_of_exec accessSystem.step
    (System.admits fun db r _ => keepsRevoked db r = true) pinLost
    [.start (.resume (.one 0) none), .advance 0 ⟨1, true⟩, .advance 0 ⟨1, true⟩,
      .start (.verify 0 frontDoor (fun _ => none) 2), .advance 0 ⟨2, true⟩, .start (.revoke 0),
      .advance 1 ⟨3, true⟩, .advance 1 ⟨3, true⟩, .advance 0 ⟨4, true⟩,
      .start (.resume (.one 0) none), .advance 1 ⟨5, true⟩]
    (fun t => t.db.revocations = [0] && t.db.openings = [⟨0, false⟩]) (by decide +kernel)
  obtain ⟨revoked, opened⟩ := Bool.and_eq_true_iff.mp left
  exact ⟨t, by simpa using revoked, by simpa using opened, revocations_final pinLost_quiet run⟩

/-- A resumption has collected the suspended PIN when its revocation is committed, and makes it
active again. -/
theorem revocations_not_final :
    ¬∀ s t : State AccessDb AccessCall, AccessQuiet s → Reaches accessSystem.step s t →
      t.db.RevocationFinal := by
  intro always
  obtain ⟨t, run, opened⟩ := Run.exists_of_exec accessSystem.step (fun _ _ => True) pinLost
    [.start (.resume (.one 0) none), .advance 0 ⟨1, true⟩, .start (.revoke 0),
      .advance 1 ⟨1, true⟩, .advance 1 ⟨1, true⟩, .advance 0 ⟨1, true⟩,
      .start (.verify 0 frontDoor (fun _ => none) 2), .advance 1 ⟨2, true⟩]
    (fun t => t.db.openings = [⟨0, true⟩]) (by decide +kernel)
  have closed := (always _ t pinLost_quiet run).closed ⟨0, true⟩ (by simp_all)
  cases closed

end StorageOS
