import StorageOS.Access.ScopeSteps

/-! Every credential of a customer opens the doors that the staff chose for it or that the contracts of
the customer give, and only unrestricted staff make one that opens everything. -/

namespace StorageOS

open Transition Processes

/-- The credentials that follow the contracts of a customer are within them, or a request under way
brings them back; and when no contract is left, one revokes them. -/
def Revised (s : State ScopeDb ScopeCall) : Prop :=
  ∀ id c k, s.db.credentials.find id = some c → c.follows k →
    (s.db.covers k c.scope ∨ ∃ r ∈ s.running, r.revises k id) ∧
    (s.db.liveContracts k none = [] → ∃ r ∈ s.running, r.revokes k id)

variable {db : ScopeDb} {running : List ScopeCall} {r : ScopeCall}

theorem revised_start (revised : Revised ⟨db, running⟩) (r : ScopeCall) : Revised ⟨db, running ++ [r]⟩ := by
  intro id c k found follows
  obtain ⟨inside, ended⟩ := revised id c k found follows
  refine ⟨inside.imp_right ?_, fun empty => ?_⟩
  · rintro ⟨r', mem, does⟩
    exact ⟨r', List.mem_append_left _ mem, does⟩
  · obtain ⟨r', mem, does⟩ := ended empty
    exact ⟨r', List.mem_append_left _ mem, does⟩

theorem revised_next {db db' : ScopeDb} {i : ℕ} {rest : Option ScopeCall} (found : running[i]? = some r)
    (step : ScopeStep db r db' rest) (revised : Revised ⟨db, running⟩) : Revised ⟨db', resume running i rest⟩ := by
  -- what the request does not do for a credential is done by another, which is still under way
  have others : ∀ {p : ScopeCall → Bool}, p r = false → (∃ r' ∈ running, p r') →
      ∃ r' ∈ resume running i rest, p r' := by
    intro p out before
    exact exists_resume (C := fun r' => p r' = true) found before fun does => by simp [out] at does
  intro id c k stored follows
  refine ⟨?_, fun empty => ?_⟩
  · rcases step.revised id c k stored follows with
      covered | ⟨r', rfl, does⟩ | ⟨c₀, before, followed, covers, idle⟩
    · exact .inl covered
    · exact .inr ⟨r', mem_resume_self found r', does⟩
    · obtain ⟨inside, ended⟩ := revised id c₀ k before followed
      rcases idle with idle | ⟨empty, idle⟩
      · exact inside.imp covers (others idle)
      · obtain ⟨r', mem, does⟩ := others idle (ended empty)
        exact .inr ⟨r', mem, revises_of_revokes does⟩
  · rcases step.revoked id c k stored follows empty with
      ⟨r', rfl, does⟩ | ⟨c₀, before, followed, empty, idle⟩
    · exact ⟨r', mem_resume_self found r', does⟩
    · exact others idle ((revised id c₀ k before followed).2 empty)

theorem carries_enter {request : ScopeRequest} (entered : enterScope db request = some r) : r.Carries db := by
  cases request with
  | update =>
    simp only [enterScope] at entered
    split at entered <;> cases entered
    trivial
  | _ =>
    cases entered
    trivial

/-- The credentials of every state that a run in order reaches from one without credentials. -/
theorem scope_reached {start s : State ScopeDb ScopeCall}
    (run : Run scopeSystem.step
      (System.admits fun db call input => scopeInOrder db call input = true) start s)
    (placed : start.db.placed) (fresh : start.db.credentials = .empty)
    (quiet : start.running = []) : s.db.Given ∧ Revised s := by
  have none_yet : ∀ id, start.db.credentials.find id = none := by
    intro id
    rw [fresh]
    rfl
  have all := System.invariant_with (P := ScopeDb.Given) (Q := fun db r => r.Carries db)
    (J := Revised) run ⟨placed, fun id c found => by simp [none_yet] at found⟩
    (by simp [quiet]) (fun id c k found => by simp [none_yet] at found)
    (fun _ entered => carries_enter entered)
    (fun given carried inOrder made => by
      have step := scope_made given carried inOrder made
      exact ⟨step.given, step.carried, fun _ other => carries_kept step.kept other⟩)
    (fun _ revised _ => revised_start revised _)
    (fun given carried revised inOrder found made =>
      revised_next found (scope_made given carried inOrder made) revised)
  exact ⟨all.1, all.2.2⟩

/-- In every run in order a credential opens what unrestricted staff asked for, what the staff chose in facilities of
theirs, or the facilities and units of the live contracts of its customer, once the requests that revise it are over.
-/
theorem scope_sound {start s : State ScopeDb ScopeCall}
    (run : Run scopeSystem.step
      (System.admits fun db call input => scopeInOrder db call input = true) start s)
    (placed : start.db.placed) (fresh : start.db.credentials = .empty)
    (quiet : start.running = []) {id : CredentialId} {c : ScopedCredential}
    {customerId : CustomerId} (found : s.db.credentials.find id = some c)
    (own : c.customerId = some customerId) :
    (c.allowedFacilityIds = [] → c.grant = .everything) ∧
    ∀ device now, evaluateCredential c.toAccessCredential device now = none →
      (∀ staff asked, c.grant = .chosen staff asked → s.db.chose staff asked device) ∧
      (c.grant = .contracts → c.source ≠ some "night_pass" →
        (∀ r ∈ s.running, r.revises customerId id = false) → s.db.rents customerId device) := by
  obtain ⟨given, revised⟩ := scope_reached run placed fresh quiet
  have granted := given.granted id c found (by rw [own]; rfl)
  refine ⟨fun empty => ?_, fun device now opens => ?_⟩
  · cases grant : c.grant with
    | everything => rfl
    | chosen staff asked =>
      rw [grant] at granted
      exact absurd empty granted.1
    | contracts =>
      rw [grant] at granted
      exact absurd empty granted
  obtain ⟨active, facility, unit⟩ := opened_within opens
  refine ⟨fun staff asked grant => ?_, fun grant day settled => ?_⟩
  · rw [grant] at granted
    obtain ⟨some_facility, facilities, units⟩ := granted
    obtain ⟨allowed, wanted⟩ := facilities _ (facility.resolve_left some_facility)
    refine ⟨allowed, wanted, fun unitId mem => units unitId ?_⟩
    exact (unit unitId mem).resolve_left fun h => some_facility h.1
  · rw [grant] at granted
    have follows : c.follows customerId := by
      simp [ScopedCredential.follows, own, active, AccessCredentialStatus.alive, grant, day]
    have covered : s.db.covers customerId c.scope := by
      refine (revised id c customerId found follows).1.resolve_right ?_
      rintro ⟨r, mem, does⟩
      simp [settled r mem] at does
    obtain ⟨inFacilities, inUnits⟩ := covers_iff.mp covered
    refine ⟨mem_scopeFacilities.mp (inFacilities _ (facility.resolve_left granted)), ?_⟩
    intro unitId mem
    exact mem_scopeUnits.mp
      (inUnits _ ((unit unitId mem).resolve_left fun h => granted h.1))

/-- A customer with a draft of a contract in the first of two facilities. -/
def twoFacilities : ScopeDb where
  facilities := [1, 2]
  units := (Table.empty.push 1).push 2
  contracts := Table.empty.push ⟨7, 0, .draft, false, none, none⟩
  credentials := .empty

def settledInput : ScopeInput := ⟨0, true, false, none, none⟩

theorem scope_sound_signed : ∃ s c, Run scopeSystem.step
    (System.admits fun db call input => scopeInOrder db call input = true) ⟨twoFacilities, []⟩ s ∧
    s.db.credentials.find 0 = some c ∧
    evaluateCredential c.toAccessCredential ⟨1, some 0, true⟩ 0 = none ∧
    s.db.rents 7 ⟨1, some 0, true⟩ := by
  obtain ⟨s, run, ends⟩ := Run.exists_of_exec scopeSystem.step
    (System.admits fun db call input => scopeInOrder db call input = true) ⟨twoFacilities, []⟩
    [.start (.signContract 0 false), .advance 0 settledInput, .advance 0 settledInput,
      .advance 0 settledInput]
    (fun s => s.running.isEmpty && (s.db.credentials.find 0).any fun c =>
      c.customerId = some 7 && c.grant = .contracts && c.source ≠ some "night_pass" &&
        (evaluateCredential c.toAccessCredential ⟨1, some 0, true⟩ 0).isNone) (by decide +kernel)
  simp only [Bool.and_eq_true, List.isEmpty_iff, Option.any_eq_true, decide_eq_true_eq,
    Option.isNone_iff_eq_none] at ends
  obtain ⟨settled, c, found, ⟨⟨own, grant⟩, day⟩, opens⟩ := ends
  have sound := scope_sound run (by unfold ScopeDb.placed; decide +kernel) rfl rfl found own
  exact ⟨s, c, run, found, opens, (sound.2 _ _ opens).2 grant day (by simp [settled])⟩

/-- The staff may let a customer into a facility where the customer rents nothing. -/
theorem scope_beyond_contracts : ∃ s c, Reaches scopeSystem.step ⟨twoFacilities, []⟩ s ∧
    s.running = [] ∧ s.db.credentials.find 0 = some c ∧ c.customerId = some 7 ∧
    c.grant ≠ .everything ∧ evaluateCredential c.toAccessCredential ⟨2, none, true⟩ 0 = none ∧
    ¬ s.db.rents 7 ⟨2, none, true⟩ := by
  obtain ⟨s, run, ends⟩ := Run.exists_of_exec scopeSystem.step (fun _ _ => True)
    ⟨twoFacilities, []⟩
    [.start (.create none 7 false ⟨[2], []⟩ ⟨none, none⟩), .advance 0 settledInput,
      .advance 0 settledInput, .advance 0 settledInput]
    (fun s => s.running.isEmpty && !decide (s.db.rents 7 ⟨2, none, true⟩) &&
      (s.db.credentials.find 0).any fun c => c.customerId = some 7 && c.grant ≠ .everything &&
        (evaluateCredential c.toAccessCredential ⟨2, none, true⟩ 0).isNone) (by decide +kernel)
  simp only [Bool.and_eq_true, List.isEmpty_iff, Option.any_eq_true, decide_eq_true_eq,
    Bool.not_eq_true', decide_eq_false_iff_not, Option.isNone_iff_eq_none] at ends
  obtain ⟨⟨settled, beyond⟩, c, found, ⟨own, grant⟩, opens⟩ := ends
  exact ⟨s, c, run, settled, found, own, grant, opens, beyond⟩

end StorageOS
