import StorageOS.Access.Credentials

/-! Uses of limited credentials under any interleaving of requests: a use is taken before the lock is asked to open
and handed back when it does not. No more locks open than the limit in any run. -/

namespace StorageOS

open Transition Processes

def AccessDb.opened (db : AccessDb) (id : CredentialId) : ℕ :=
  db.openings.countP fun o => o.credentialId = id

/-- The credential of which a request holds a use that has opened nothing yet. -/
def AccessCall.use : AccessCall → Option CredentialId
  | .opening p => if p.row.maxUses.isSome then some p.id else none
  | .returning p => some p.id
  | _ => none

def usesHeld (running : List AccessCall) (id : CredentialId) : ℕ :=
  (running.filterMap AccessCall.use).count id

/-- A verification that takes a credential for spent finds its uses taken, none is handed back to an
expired credential, and a credential of limited uses does not pass its date. -/
def keepsUses (db : AccessDb) : AccessCall → Bool
  | .marking p => !p.spent ||
    (db.credentials.find p.id).all fun c => c.maxUses.all fun limit => limit ≤ c.usesCount
  | .returning p => db.status p.id ≠ some .expired
  | .lapsing id | .expiring (id :: _) => (db.credentials.find id).all fun c => c.maxUses.isNone
  | _ => true

/-- The uses taken of each limited credential opened a lock or are held, within the limit. -/
structure UsesBook (db : AccessDb) (running : List AccessCall) : Prop where
  taken : ∀ id c limit, db.credentials.find id = some c → c.maxUses = some limit →
    c.usesCount = db.opened id + usesHeld running id
  within : ∀ id c limit, db.credentials.find id = some c → c.maxUses = some limit →
    c.usesCount ≤ limit

def AccessDb.ExpiresSpent (db : AccessDb) : Prop :=
  ∀ id c limit, db.credentials.find id = some c → c.maxUses = some limit → c.status = .expired →
    limit ≤ c.usesCount

def AccessCall.SameLimit (db : AccessDb) (call : AccessCall) : Prop :=
  ∀ p, call.presented = some p → ∀ c, db.credentials.find p.id = some c →
    c.maxUses = p.row.maxUses

variable {db db' : AccessDb} {call : AccessCall} {input : AccessInput} {rest : Option AccessCall}
  {running : List AccessCall} {id : CredentialId} {c' : AccessCredential}

variable {f : AccessCredential → AccessCredential} {i : ℕ}

variable {j : CredentialId} {q : CredentialId × AccessCredential → Bool} {request : AccessRequest} {r : AccessCall}

theorem find_update_row (found : (db.update j f).credentials.find id = some c') :
    ∃ c, db.credentials.find id = some c ∧ c' = if id = j then f c else c := by
  rcases Table.find_modify_cases found with ⟨other, same⟩ | ⟨rfl, c, before, rfl⟩
  · exact ⟨c', same, by rw [if_neg other]⟩
  · exact ⟨c, before, by rw [if_pos rfl]⟩

theorem find_updateMany_row (found : (db.updateMany q f).credentials.find id = some c') :
    ∃ c, db.credentials.find id = some c ∧ c' = if q (id, c) then f c else c := by
  rw [AccessDb.updateMany, Table.find_updateMany] at found
  obtain ⟨c, before, rfl⟩ := Option.map_eq_some_iff.mp found
  exact ⟨c, before, rfl⟩

def KeepsUses (f : AccessCredential → AccessCredential) : Prop :=
  ∀ c, (f c).maxUses = c.maxUses ∧ (f c).usesCount = c.usesCount

theorem uses_of_update (found : (db.update j f).credentials.find id = some c') (keeps : KeepsUses f) :
    ∃ c, db.credentials.find id = some c ∧ c'.maxUses = c.maxUses ∧
      c'.usesCount = c.usesCount := by
  obtain ⟨c, before, rfl⟩ := find_update_row found
  refine ⟨c, before, ?_⟩
  split
  · exact keeps c
  · exact ⟨rfl, rfl⟩

theorem uses_of_updateMany (found : (db.updateMany q f).credentials.find id = some c') (keeps : KeepsUses f) :
    ∃ c, db.credentials.find id = some c ∧ c'.maxUses = c.maxUses ∧
      c'.usesCount = c.usesCount := by
  obtain ⟨c, before, rfl⟩ := find_updateMany_row found
  refine ⟨c, before, ?_⟩
  split
  · exact keeps c
  · exact ⟨rfl, rfl⟩

theorem use_of_unpresented (unpresented : call.presented = none) : call.use = none := by
  cases call <;> first | rfl | cases unpresented

theorem rest_use_of_unpresented (unpresented : rest.bind AccessCall.presented = none) :
    rest.bind AccessCall.use = none := by
  cases rest with
  | none => rfl
  | some r => exact use_of_unpresented unpresented

theorem opened_push (p : Passed) :
    ({ db with openings := ⟨p.id, p.late⟩ :: db.openings } : AccessDb).opened id =
      db.opened id + if p.id = id then 1 else 0 := by
  simp only [AccessDb.opened, List.countP_cons, decide_eq_true_eq]

/-- The uses of a limited credential move with the uses that its request holds and the locks it
opens, within the limit. -/
structure UsesMove (db db' : AccessDb) (call : AccessCall) (rest : Option AccessCall)
    (id : CredentialId) (c c' : AccessCredential) : Prop where
  maxUses : c'.maxUses = c.maxUses
  balanced : ∀ limit, c.maxUses = some limit → (call.use = some id → 0 < c.usesCount) →
    c'.usesCount + call.use.toList.count id + db.opened id =
      c.usesCount + (rest.bind AccessCall.use).toList.count id + db'.opened id
  within : ∀ limit, c.maxUses = some limit → c.usesCount ≤ limit → c'.usesCount ≤ limit

theorem UsesMove.of_same {c c' : AccessCredential} (use : call.use = rest.bind AccessCall.use)
    (opened : db'.openings = db.openings) (maxUses : c'.maxUses = c.maxUses)
    (same : c'.usesCount = c.usesCount) : UsesMove db db' call rest id c c' := by
  refine ⟨maxUses, fun limit _ _ => ?_, fun limit _ h => same ▸ h⟩
  rw [same, use, AccessDb.opened, AccessDb.opened, opened]

theorem AccessMove.uses (move : AccessMove db call input db' rest) (sound : call.SameLimit db)
    (found' : db'.credentials.find id = some c') :
    ∃ c, db.credentials.find id = some c ∧ UsesMove db db' call rest id c c' := by
  cases move with
  | reads before after =>
    have same := (use_of_unpresented before).trans (rest_use_of_unpresented after).symm
    exact ⟨c', found', .of_same same rfl rfl rfl⟩
  | suspends =>
    obtain ⟨c, found, max, uses⟩ := uses_of_updateMany found' fun _ => ⟨rfl, rfl⟩
    exact ⟨c, found, .of_same rfl rfl max uses⟩
  | suspendsOne active =>
    obtain ⟨c, found, max, uses⟩ := uses_of_update found' fun _ => ⟨rfl, rfl⟩
    exact ⟨c, found, .of_same rfl rfl max uses⟩
  | resumes after =>
    obtain ⟨c, found, max, uses⟩ := uses_of_updateMany found' fun _ => ⟨rfl, rfl⟩
    exact ⟨c, found, .of_same (rest_use_of_unpresented after).symm rfl max uses⟩
  | @revokes j =>
    obtain ⟨c, found, max, uses⟩ :=
      uses_of_update (j := j) (f := AccessCredential.revoke input.now) found' fun _ => ⟨rfl, rfl⟩
    exact ⟨c, found, .of_same rfl rfl max uses⟩
  | @expires j | @lapses j =>
    obtain ⟨c, found, max, uses⟩ :=
      uses_of_update (j := j) (f := AccessCredential.expire) found' fun _ => ⟨rfl, rfl⟩
    exact ⟨c, found, .of_same rfl rfl max uses⟩
  | refuses => exact ⟨c', found', .of_same rfl rfl rfl rfl⟩
  | fails limited =>
    refine ⟨c', found', .of_same ?_ rfl rfl rfl⟩
    simp [AccessCall.use, limited]
  | failsUnlimited unlimited =>
    refine ⟨c', found', .of_same ?_ rfl rfl rfl⟩
    simp [AccessCall.use, unlimited]
  | marks =>
    obtain ⟨c, found, max, uses⟩ := uses_of_update found' fun _ => ⟨rfl, rfl⟩
    exact ⟨c, found, .of_same rfl rfl max uses⟩
  | @claims p _ stored limit foundStored limited room =>
    obtain ⟨c, found, rfl⟩ := find_update_row found'
    refine ⟨c, found, ?_⟩
    by_cases same : id = p.id
    · subst same
      obtain rfl : c = stored := Option.some.inj (found.symm.trans foundStored)
      have max : c.maxUses = some limit := (sound p rfl c found).trans limited
      rw [if_pos rfl]
      refine ⟨rfl, fun _ _ _ => ?_, fun limit' max' _ => ?_⟩
      · simp [AccessCall.use, limited, AccessDb.opened, AccessDb.update]
      · obtain rfl : limit = limit' := Option.some.inj (max.symm.trans max')
        dsimp only
        lia
    · rw [if_neg same]
      refine ⟨rfl, fun _ _ _ => ?_, fun _ _ h => h⟩
      simp [AccessCall.use, limited, AccessDb.opened, AccessDb.update, Ne.symm same]
  | @opens p =>
    refine ⟨c', found', rfl, fun limit max _ => ?_, fun _ _ h => h⟩
    rw [opened_push]
    by_cases same : p.id = id
    · subst same
      have limited : p.row.maxUses = some limit := (sound p rfl c' found').symm.trans max
      simp [AccessCall.use, limited]
      lia
    · by_cases limited : p.row.maxUses.isSome <;> simp [AccessCall.use, limited, same]
  | @returns p =>
    obtain ⟨c, found, rfl⟩ := find_update_row found'
    refine ⟨c, found, ?_⟩
    by_cases same : id = p.id
    · subst same
      rw [if_pos rfl]
      refine ⟨by split <;> rfl, fun limit max held => ?_, fun limit max h => ?_⟩
      · rw [if_pos (held rfl)]
        simp [AccessCall.use, AccessDb.opened, AccessDb.update]
      · split
        · dsimp only
          lia
        · exact h
    · rw [if_neg same]
      refine ⟨rfl, fun _ _ _ => ?_, fun _ _ h => h⟩
      simp [AccessCall.use, AccessDb.opened, AccessDb.update, Ne.symm same]

theorem usesHeld_resume (found : running[i]? = some call) (rest : Option AccessCall) (id : CredentialId) :
    call.use.toList.count id + usesHeld (resume running i rest) id =
      usesHeld running id + (rest.bind AccessCall.use).toList.count id := by
  have perm := filterMap_resume AccessCall.use found rest
  rw [usesHeld, usesHeld, ← List.count_append, ← List.count_append, perm.count_eq]

theorem usesHeld_pos (found : running[i]? = some call) (use : call.use = some id) :
    0 < usesHeld running id :=
  List.count_pos_iff.mpr (List.mem_filterMap.mpr ⟨call, List.mem_of_getElem? found, use⟩)

theorem UsesBook.move (book : UsesBook db running) (sound : call.SameLimit db) (found : running[i]? = some call)
    (move : AccessMove db call input db' rest) :
    UsesBook db' (resume running i rest) := by
  constructor
  · intro id c' limit found' max
    obtain ⟨c, before, changed⟩ := move.uses sound found'
    rw [changed.maxUses] at max
    have taken := book.taken id c limit before max
    have balanced := changed.balanced limit max fun use => by
      have := usesHeld_pos found use
      lia
    have held := usesHeld_resume found rest id
    lia
  · intro id c' limit found' max
    obtain ⟨c, before, changed⟩ := move.uses sound found'
    rw [changed.maxUses] at max
    exact changed.within limit max (book.within id c limit before max)

theorem AccessCall.SameLimit.move {other : AccessCall} (sound : call.SameLimit db)
    (own : other.SameLimit db) (move : AccessMove db call input db' rest) :
    other.SameLimit db' := by
  intro p passed c' found'
  obtain ⟨c, before, changed⟩ := move.uses sound found'
  exact changed.maxUses.trans (own p passed c before)

/-- The moves that meet the condition let no limited credential expire before its last use. -/
theorem AccessDb.ExpiresSpent.move (spent : db.ExpiresSpent) (keeps : keepsUses db call = true)
    (move : AccessMove db call input db' rest) : db'.ExpiresSpent := by
  intro id c' limit found' max expired
  cases move with
  | suspends | resumes =>
    obtain ⟨c, before, rfl⟩ := find_updateMany_row found'
    split at expired
    · cases expired
    · rename_i unchanged
      rw [if_neg unchanged] at max ⊢
      exact spent id c limit before max expired
  | suspendsOne =>
    obtain ⟨c, before, rfl⟩ := find_update_row found'
    split at expired
    · cases expired
    · rename_i other
      rw [if_neg other] at max ⊢
      exact spent id c limit before max expired
  | @revokes j =>
    obtain ⟨c, before, rfl⟩ :=
      find_update_row (j := j) (f := AccessCredential.revoke input.now) found'
    split at expired
    · cases expired
    · rename_i other
      rw [if_neg other] at max ⊢
      exact spent id c limit before max expired
  | @expires j | @lapses j =>
    obtain ⟨c, before, rfl⟩ := find_update_row (j := j) (f := AccessCredential.expire) found'
    by_cases same : id = j
    · subst same
      rw [if_pos rfl] at max
      have unlimited : c.maxUses = none := by simpa [keepsUses, before] using keeps
      rw [AccessCredential.expire, unlimited] at max
      cases max
    · rw [if_neg same] at max expired ⊢
      exact spent id c limit before max expired
  | @claims p =>
    obtain ⟨c, before, rfl⟩ := find_update_row found'
    by_cases same : id = p.id
    · rw [if_pos same] at max expired ⊢
      have := spent id c limit before max expired
      dsimp only
      lia
    · rw [if_neg same] at max expired ⊢
      exact spent id c limit before max expired
  | @returns p =>
    obtain ⟨c, before, rfl⟩ := find_update_row found'
    by_cases same : id = p.id
    · subst same
      have open' : c.status ≠ .expired := by
        simpa [keepsUses, AccessDb.status, before] using keeps
      rw [if_pos rfl] at expired
      exact absurd (by split at expired <;> exact expired) open'
    · rw [if_neg same] at max expired ⊢
      exact spent id c limit before max expired
  | @marks p =>
    obtain ⟨c, before, rfl⟩ := find_update_row found'
    by_cases same : id = p.id
    · subst same
      rw [if_pos rfl] at max expired ⊢
      by_cases last : p.spent = true
      · have max : c.maxUses = some limit := max
        have used : limit ≤ c.usesCount := by simpa [keepsUses, last, before, max] using keeps
        exact used
      · rw [Passed.mark, if_neg last] at expired
        exact spent p.id c limit before max expired
    · rw [if_neg same] at max expired ⊢
      exact spent id c limit before max expired
  | _ => exact spent id c' limit found' max expired

/-! ### Runs -/

/-- No request is under way, and the uses of limited credentials are in order. -/
structure PassesQuiet (s : State AccessDb AccessCall) : Prop where
  running : s.running = []
  book : UsesBook s.db []
  spent : s.db.ExpiresSpent

/-- A limited credential opens no more than its limit, and is expired only after that many openings
once no request is under way. -/
structure PassesUsed (s : State AccessDb AccessCall) : Prop where
  within : ∀ id c limit, s.db.credentials.find id = some c → c.maxUses = some limit →
    s.db.opened id ≤ limit
  spent : s.running = [] → ∀ id c limit, s.db.credentials.find id = some c →
    c.maxUses = some limit → c.status = .expired → s.db.opened id = limit

theorem UsesBook.opened_le (book : UsesBook db running) {c : AccessCredential} {limit : ℤ}
    (found : db.credentials.find id = some c) (max : c.maxUses = some limit) :
    db.opened id ≤ limit := by
  have taken := book.taken id c limit found max
  have within := book.within id c limit found max
  lia

theorem enterAccess_use (entered : enterAccess db request = some r) : r.use = none := by
  cases passed : r.presented with
  | none => exact use_of_unpresented passed
  | some p =>
    obtain ⟨rfl, -⟩ := enterAccess_presented entered passed
    rw [Passed.begin]
    split
    · rfl
    · rename_i unlimited
      simp [AccessCall.use, unlimited]

theorem enterAccess_sameLimit (entered : enterAccess db request = some r) : r.SameLimit db := by
  intro p passed c found
  obtain ⟨-, read, -⟩ := enterAccess_presented entered passed
  rw [Option.some.inj (found.symm.trans read)]

/-- In every run the uses taken opened a lock or are held, and no more than the limit. -/
theorem uses_booked {s t : State AccessDb AccessCall} (quiet : PassesQuiet s)
    (run : Reaches accessSystem.step s t) : UsesBook t.db t.running := by
  have all := System.invariant_with (P := fun _ => True) (Q := fun db r => r.SameLimit db)
    (J := fun x => UsesBook x.db x.running) (System.admitted run) trivial (by simp [quiet.running])
    (by rw [quiet.running]; exact quiet.book)
    (fun _ entered => enterAccess_sameLimit entered)
    (fun {db r input db' rest} _ sound _ made => by
      have move := nextAccess_move db r input
      rw [Option.some.inj made] at move
      refine ⟨trivial, fun r' same => ?_, fun other own => sound.move own move⟩
      subst same
      have own : r'.SameLimit db := fun p passed => sound p (move.presented passed)
      exact sound.move own move)
    (fun {db running request r} _ book entered => by
      have same : ∀ id, usesHeld (running ++ [r]) id = usesHeld running id := by
        simp [usesHeld, enterAccess_use entered]
      exact ⟨fun id c limit found max => by rw [same]; exact book.taken id c limit found max,
        book.within⟩)
    (fun {db running i r input db' rest} _ sound book _ found made => by
      have move := nextAccess_move db r input
      rw [Option.some.inj made] at move
      exact book.move sound found move)
  exact all.2.2

/-- In every run in which no limited credential is marked as expired for less than the stored
counter says, they keep to their limits and expire with their last use. -/
theorem passes_used {s t : State AccessDb AccessCall} (quiet : PassesQuiet s)
    (run : Run accessSystem.step
      (System.admits fun db r _ => keepsUses db r = true) s t) : PassesUsed t := by
  have book := uses_booked quiet (run.mono fun _ _ _ => trivial)
  have spent := (System.invariant (P := AccessDb.ExpiresSpent) (Q := fun _ _ => True) run
    quiet.spent (fun _ _ => trivial) (fun _ _ => trivial)
    (fun {db r input db' rest} spent _ keeps made => by
      have move := nextAccess_move db r input
      rw [Option.some.inj made] at move
      exact ⟨spent.move keeps move, fun _ _ => trivial, fun _ _ => trivial⟩)).1
  refine ⟨fun id c limit found max => book.opened_le found max, fun quiet id c limit found max
    expired => ?_⟩
  have taken := book.taken id c limit found max
  have within := book.within id c limit found max
  have used := spent id c limit found max expired
  have free : usesHeld t.running id = 0 := by
    rw [quiet]
    rfl
  lia

def nightPass : AccessCredential where
  customerId := some 1
  status := .active
  allowedFacilityIds := []
  allowedUnitIds := []
  extra := false
  maxUses := some 2
  usesCount := 0
  suspendReason := none
  validFrom := none
  expiresAt := none
  suspendedAt := none
  revokedAt := none
  lastUsedAt := none

def passSold : State AccessDb AccessCall := ⟨⟨Table.empty.push nightPass, [], [], []⟩, []⟩

theorem passSold_quiet : PassesQuiet passSold := by
  have row : ∀ id c, passSold.db.credentials.find id = some c → c = nightPass := by
    intro id c found
    have listed := Table.find_eq_some.mp found
    simp only [passSold, Table.rows_push, Table.empty, List.nil_append, List.mem_singleton,
      Prod.mk.injEq] at listed
    exact listed.2
  refine ⟨rfl, ⟨fun id c limit found max => ?_, fun id c limit found max => ?_⟩,
    fun id c limit found max expired => ?_⟩
  · rw [row id c found]
    rfl
  · rw [row id c found] at max ⊢
    cases max
    decide
  · rw [row id c found] at expired
    cases expired

def gate : AccessDevice := ⟨1, none, true⟩

/-- Of three verifications one finds the lock jammed and hands its use back, which is used again. -/
theorem passes_used_gate :
    ∃ t : State AccessDb AccessCall, t.db.opened 0 = 2 ∧ t.db.status 0 = some .expired ∧
      PassesUsed t := by
  obtain ⟨t, run, left⟩ := Run.exists_of_exec accessSystem.step
    (System.admits fun db r _ => keepsUses db r = true) passSold
    [.start (.verify 0 gate (fun _ => none) 1), .advance 0 ⟨1, true⟩, .advance 0 ⟨1, false⟩,
      .advance 0 ⟨1, true⟩, .start (.verify 0 gate (fun _ => none) 2), .advance 0 ⟨2, true⟩,
      .advance 0 ⟨2, true⟩, .advance 0 ⟨2, true⟩,
      .start (.openForCustomer 1 gate true (fun _ => none) 3), .advance 0 ⟨3, true⟩,
      .advance 0 ⟨3, true⟩, .advance 0 ⟨3, true⟩]
    (fun t => t.db.opened 0 = 2 && t.db.status 0 = some .expired) (by decide +kernel)
  obtain ⟨opened, expired⟩ := Bool.and_eq_true_iff.mp left
  exact ⟨t, by simpa using opened, by simpa using expired, passes_used passSold_quiet run⟩

/-- A verification that read one use taken opens and takes the pass for spent, while the request that
had taken that use hands it back. -/
theorem passes_not_used :
    ¬∀ s t : State AccessDb AccessCall, PassesQuiet s → Reaches accessSystem.step s t →
      PassesUsed t := by
  intro always
  obtain ⟨t, run, left⟩ := Run.exists_of_exec accessSystem.step (fun _ _ => True) passSold
    [.start (.verify 0 gate (fun _ => none) 1), .advance 0 ⟨1, true⟩,
      .start (.verify 0 gate (fun _ => none) 1), .advance 1 ⟨1, true⟩, .advance 1 ⟨1, true⟩,
      .advance 0 ⟨1, false⟩, .advance 0 ⟨1, true⟩, .advance 0 ⟨1, true⟩]
    (fun t => t.running.isEmpty && t.db.opened 0 = 1 && (t.db.credentials.find 0).any fun c =>
      c.maxUses = some 2 && c.status = .expired) (by decide +kernel)
  obtain ⟨left, row⟩ := Bool.and_eq_true_iff.mp left
  obtain ⟨ended, opened⟩ := Bool.and_eq_true_iff.mp left
  obtain ⟨c, found, row⟩ := (Option.any_eq_true _ _).mp row
  obtain ⟨max, expired⟩ := Bool.and_eq_true_iff.mp row
  have used := (always _ t passSold_quiet run).spent (by simpa using ended) 0 c 2 found
    (by simpa using max) (by simpa using expired)
  have opened : t.db.opened 0 = 1 := by simpa using opened
  lia

end StorageOS
