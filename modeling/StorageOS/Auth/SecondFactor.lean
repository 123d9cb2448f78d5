import StorageOS.Auth.TwoFactor

/-! Each step of 30 seconds and each recovery code lets one challenge pass at most, in every run. No window has
more wrong codes than the limit, as long as a challenge that evaluates a wrong one has counted those before. -/

namespace StorageOS

open Transition Processes

variable {lib : TwoFactorLibrary} {db db' : TwoFactorDb} {call call' : TwoFactorCall} {rest : Option TwoFactorCall}
  {input : TwoFactorInput} {userId : UserId} {lost : Bool} {id : ℕ} {now : Instant}

def ChallengeEvent.stepOf (userId : UserId) : ChallengeEvent → Option ℤ
  | .step u s => if u = userId then some s else none
  | _ => none

def ChallengeEvent.codeUsed : ChallengeEvent → Option ℕ
  | .code _ id _ => some id
  | _ => none

def ChallengeEvent.wrongAt (userId : UserId) : ChallengeEvent → Option Instant
  | .wrong u moment => if u = userId then some moment else none
  | _ => none

def TwoFactorDb.steps (db : TwoFactorDb) (userId : UserId) : List ℤ :=
  db.events.filterMap (ChallengeEvent.stepOf userId)

def TwoFactorDb.codesUsed (db : TwoFactorDb) : List ℕ := db.events.filterMap ChallengeEvent.codeUsed

def TwoFactorDb.wrongs (db : TwoFactorDb) (userId : UserId) : List Instant :=
  db.events.filterMap (ChallengeEvent.wrongAt userId)

def TwoFactorDb.lastStep (db : TwoFactorDb) (userId : UserId) : Option ℤ :=
  (db.users.find userId).bind TwoFactorUser.twoFactorLastStep

/-- Steps and codes pass once, in order, and codes after the last issue. -/
structure SingleUse (db : TwoFactorDb) : Prop where
  codes : ∀ row ∈ db.codes, row.id < db.nextCode ∧ db.lastIssue row.userId ≤ row.id
  owner : ∀ row ∈ db.codes, ∀ row' ∈ db.codes, row'.id = row.id → row'.userId = row.userId
  issued : ∀ userId, db.lastIssue userId ≤ db.nextCode
  used : ∀ userId id issuedFrom, .code userId id issuedFrom ∈ db.events → issuedFrom ≤ id ∧ id < db.nextCode ∧
    ∀ row ∈ db.codes, row.id = id → row.usedAt ≠ none
  once : db.codesUsed.Nodup
  ordered : ∀ userId, (db.steps userId).Pairwise (· > ·)
  bounded : ∀ userId, ∀ step ∈ db.steps userId, ∃ last, db.lastStep userId = some last ∧ step ≤ last

/-- What a request knows: the codes that it tries are its user's, and a challenge has counted below the limit. -/
def TwoFactorCall.Known (db : TwoFactorDb) : TwoFactorCall → Prop
  | .consuming userId candidates counted =>
    (∀ id ∈ candidates, id < db.nextCode ∧ ∀ row ∈ db.codes, row.id = id → row.userId = userId) ∧
      ∀ n ∈ counted, n < twoFactorMaxFailures
  | .matching _ _ _ counted => ∀ n ∈ counted, n < twoFactorMaxFailures
  | .claiming _ _ counted => counted < twoFactorMaxFailures
  | _ => True

/-! ### What a step changes -/

/-- The codes that a database had under a number are of the same user. -/
structure CodesStay (db db' : TwoFactorDb) : Prop where
  later : db.nextCode ≤ db'.nextCode
  same : ∀ row ∈ db'.codes, row.id < db.nextCode → ∃ row' ∈ db.codes, row'.id = row.id ∧ row'.userId = row.userId

theorem CodesStay.of_same (codes : db'.codes = db.codes) (next : db'.nextCode = db.nextCode) : CodesStay db db' :=
  ⟨next.ge, fun row mem _ => ⟨row, codes ▸ mem, rfl, rfl⟩⟩

theorem TwoFactorCall.Known.stay (known : call.Known db) (stay : CodesStay db db') : call.Known db' := by
  cases call with
  | consuming userId candidates counted =>
    refine ⟨fun id mem => ?_, known.2⟩
    obtain ⟨old, owner⟩ := known.1 id mem
    refine ⟨old.trans_le stay.later, fun row there same => ?_⟩
    obtain ⟨row', mem', same', user'⟩ := stay.same row there (same ▸ old)
    exact user' ▸ owner row' mem' (same'.trans same)
  | matching => exact known
  | claiming => exact known
  | _ => trivial

theorem SingleUse.fail (held : SingleUse db) (userId : UserId) (counted : Option ℕ) :
    SingleUse (db.fail userId counted).1 := by
  cases counted with
  | none => exact held
  | some n =>
    refine ⟨held.codes, held.owner, held.issued, fun u id issuedFrom mem => ?_, held.once, held.ordered, held.bounded⟩
    rcases List.mem_cons.mp mem with other | mem
    · cases other
    · exact held.used u id issuedFrom mem

variable {row : RecoveryCode} {counted : ℕ}

theorem mem_markUsed (mem : row ∈ db.markUsed id) : ∃ row' ∈ db.codes, row'.id = row.id ∧
    row'.userId = row.userId ∧ (row.id = id → row.usedAt ≠ none) ∧ (row'.usedAt ≠ none → row.usedAt ≠ none) := by
  obtain ⟨row', there, rfl⟩ := List.mem_map.mp mem
  refine ⟨row', there, ?_⟩
  split
  · exact ⟨rfl, rfl, fun _ => Option.some_ne_none _, fun _ => Option.some_ne_none _⟩
  · rename_i other
    exact ⟨rfl, rfl, fun own free => other ⟨own, free⟩, fun h => h⟩

theorem SingleUse.mark (held : SingleUse db) (id : ℕ) : SingleUse { db with codes := db.markUsed id } where
  codes row mem := by
    obtain ⟨row', there, same, user, -⟩ := mem_markUsed mem
    rw [← same, ← user]
    exact held.codes row' there
  owner row mem row' mem' same := by
    obtain ⟨old, there, id_, user, -⟩ := mem_markUsed mem
    obtain ⟨old', there', id', user', -⟩ := mem_markUsed mem'
    rw [← user, ← user']
    exact held.owner old there old' there' (by rw [id_, id', same])
  issued := held.issued
  used u i issuedFrom mem := by
    obtain ⟨after, old, closed⟩ := held.used u i issuedFrom mem
    refine ⟨after, old, fun row there same => ?_⟩
    obtain ⟨row', there', same', -, -, keeps⟩ := mem_markUsed there
    exact keeps (closed row' there' (same'.trans same))
  once := held.once
  ordered := held.ordered
  bounded := held.bounded

theorem codesStay_mark (id : ℕ) : CodesStay db { db with codes := db.markUsed id } :=
  ⟨le_rfl, fun row mem _ => by
    obtain ⟨row', there, same, user, -⟩ := mem_markUsed mem
    exact ⟨row', there, same, user⟩⟩

theorem SingleUse.consume (held : SingleUse db) (there : row ∈ db.codes) (free : row.usedAt = none)
    (user : row.userId = userId) :
    SingleUse { db with
      codes := db.markUsed row.id, events := .code userId row.id (db.lastIssue userId) :: db.events } := by
  have marked := held.mark row.id
  obtain ⟨old, issued⟩ := held.codes row there
  refine ⟨marked.codes, marked.owner, marked.issued, fun u i issuedFrom mem => ?_, ?_, marked.ordered, marked.bounded⟩
  · rcases List.mem_cons.mp mem with own | mem
    · cases own
      refine ⟨user ▸ issued, old, fun row' there' same => ?_⟩
      obtain ⟨-, -, -, -, closed, -⟩ := mem_markUsed there'
      exact closed same
    · exact marked.used u i issuedFrom mem
  · change (row.id :: db.codesUsed).Nodup
    refine List.nodup_cons.mpr ⟨fun mem => ?_, held.once⟩
    obtain ⟨event, seen, used⟩ := List.mem_filterMap.mp mem
    cases event with
    | code u i issuedFrom =>
      cases used
      exact (held.used u _ issuedFrom seen).2.2 row there rfl free
    | step => cases used
    | wrong => cases used

theorem SingleUse.claim (held : SingleUse db) {step : ℤ}
    (later : (db.users.find userId).any (fun user => user.twoFactorLastStep.all (· < step)) = true) :
    SingleUse { db with
      users := db.users.modify userId fun user => { user with twoFactorLastStep := some step }
      events := .step userId step :: db.events } := by
  obtain ⟨user, found, later⟩ := (Option.any_eq_true _ _).mp later
  have above : ∀ s ∈ db.steps userId, s < step := by
    intro s mem
    obtain ⟨last, here, le⟩ := held.bounded userId s mem
    rw [TwoFactorDb.lastStep, found, Option.bind_some] at here
    rw [here, Option.all_some] at later
    exact lt_of_le_of_lt le (of_decide_eq_true later)
  have steps : ∀ u, (ChallengeEvent.step userId step :: db.events).filterMap (ChallengeEvent.stepOf u) =
      if userId = u then step :: db.steps u else db.steps u := by
    intro u
    rw [List.filterMap_cons]
    by_cases own : userId = u <;> simp [ChallengeEvent.stepOf, own, TwoFactorDb.steps]
  refine ⟨held.codes, held.owner, held.issued, fun u id issuedFrom mem => ?_, held.once, fun u => ?_, fun u s mem => ?_⟩
  · rcases List.mem_cons.mp mem with other | mem
    · cases other
    · exact held.used u id issuedFrom mem
  · rw [TwoFactorDb.steps, steps]
    split
    · rename_i own
      subst own
      exact List.pairwise_cons.mpr ⟨above, held.ordered userId⟩
    · exact held.ordered u
  · rw [TwoFactorDb.steps, steps] at mem
    rw [TwoFactorDb.lastStep]
    by_cases own : userId = u
    · subst own
      rw [if_pos rfl] at mem
      refine ⟨step, by rw [Table.find_modify_self, found]; rfl, ?_⟩
      rcases List.mem_cons.mp mem with rfl | mem
      · exact le_rfl
      · exact (above s mem).le
    · rw [if_neg own] at mem
      rw [Table.find_modify_ne _ (Ne.symm own)]
      exact held.bounded u s mem

theorem SingleUse.keep {f : TwoFactorUser → TwoFactorUser} (held : SingleUse db)
    (same : ∀ user, (f user).twoFactorLastStep = user.twoFactorLastStep) :
    SingleUse { db with users := db.users.modify userId f } := by
  refine ⟨held.codes, held.owner, held.issued, held.used, held.once, held.ordered, fun u step mem => ?_⟩
  obtain ⟨last, here, le⟩ := held.bounded u step mem
  refine ⟨last, ?_, le⟩
  rw [TwoFactorDb.lastStep, Table.find_modify]
  split
  · rename_i own
    subst own
    rw [TwoFactorDb.lastStep] at here
    rw [Option.bind_map, ← here]
    exact congrArg _ (funext same)
  · exact here

theorem mem_issueForUser {hashes : RecoveryHashes} (mem : row ∈ (db.issueForUser userId hashes).codes) :
    (row ∈ db.codes ∧ row.userId ≠ userId) ∨ (row.userId = userId ∧ db.nextCode ≤ row.id ∧
      row.id < db.nextCode + recoveryCodeCount) := by
  rcases List.mem_append.mp mem with mem | mem
  · obtain ⟨there, other⟩ := List.mem_filter.mp mem
    exact .inl ⟨there, of_decide_eq_true other⟩
  · obtain ⟨p, there, rfl⟩ := List.mem_map.mp mem
    have bound := List.snd_lt_of_mem_zipIdx there
    rw [hashes.property, Nat.add_zero] at bound
    exact .inr ⟨rfl, by simp, by simpa using bound⟩

theorem SingleUse.issue (held : SingleUse db) (userId : UserId) (hashes : RecoveryHashes) :
    SingleUse (db.issueForUser userId hashes) where
  codes row mem := by
    rcases mem_issueForUser mem with ⟨there, other⟩ | ⟨own, after, before⟩
    · obtain ⟨old, issued⟩ := held.codes row there
      refine ⟨Nat.lt_add_right _ old, ?_⟩
      change Function.update db.lastIssue userId db.nextCode row.userId ≤ row.id
      rwa [Function.update_of_ne other]
    · refine ⟨before, ?_⟩
      change Function.update db.lastIssue userId db.nextCode row.userId ≤ row.id
      rwa [own, Function.update_self]
  owner row mem row' mem' same := by
    rcases mem_issueForUser mem with ⟨there, -⟩ | ⟨own, after, -⟩ <;>
      rcases mem_issueForUser mem' with ⟨there', -⟩ | ⟨own', after', -⟩
    · exact held.owner row there row' there' same
    · have old := (held.codes row there).1
      omega
    · have old := (held.codes row' there').1
      omega
    · rw [own, own']
  issued u := by
    change Function.update db.lastIssue userId db.nextCode u ≤ db.nextCode + recoveryCodeCount
    by_cases own : u = userId
    · rw [own, Function.update_self]
      omega
    · rw [Function.update_of_ne own]
      exact Nat.le_add_right_of_le (held.issued u)
  used u i issuedFrom mem := by
    obtain ⟨after, old, closed⟩ := held.used u i issuedFrom mem
    refine ⟨after, Nat.lt_add_right _ old, fun row there same => ?_⟩
    rcases mem_issueForUser there with ⟨there, -⟩ | ⟨-, new, -⟩
    · exact closed row there same
    · omega
  once := held.once
  ordered := held.ordered
  bounded := held.bounded

theorem codesStay_issue (userId : UserId) (hashes : RecoveryHashes) :
    CodesStay db (db.issueForUser userId hashes) :=
  ⟨Nat.le_add_right _ _, fun row mem old => by
    rcases mem_issueForUser mem with ⟨there, -⟩ | ⟨-, new, -⟩
    · exact ⟨row, there, rfl, rfl⟩
    · omega⟩

theorem runTwoFactor_single (lib : TwoFactorLibrary) (held : SingleUse db) (known : call.Known db) (lost : Bool) :
    SingleUse (runTwoFactor lib db lost call).1 ∧ CodesStay db (runTwoFactor lib db lost call).1 ∧
      ∀ call', (runTwoFactor lib db lost call).2 = some call' → call'.Known (runTwoFactor lib db lost call).1 := by
  have stays : ∀ {db' : TwoFactorDb}, db'.codes = db.codes → db'.nextCode = db.nextCode → CodesStay db db' :=
    CodesStay.of_same
  have failed : ∀ u counted, SingleUse (db.fail u counted).1 ∧ CodesStay db (db.fail u counted).1 ∧
      ∀ call', (db.fail u counted).2 = some call' → call'.Known (db.fail u counted).1 := by
    intro u counted
    cases counted with
    | none => exact ⟨held, stays rfl rfl, goesOn_none⟩
    | some n => exact ⟨held.fail u (some n), stays rfl rfl, fun _ h => by cases h; trivial⟩
  cases call with
  | counting userId secret input =>
    simp only [runTwoFactor]
    split
    · exact ⟨held, stays rfl rfl, goesOn_none⟩
    · rename_i few
      refine ⟨held, stays rfl rfl, fun _ h => ?_⟩
      cases h
      intro n same
      cases same
      exact lt_of_not_ge few
  | matching userId encryptedSecret input counted =>
    simp only [runTwoFactor]
    split
    · refine ⟨held, stays rfl rfl, fun _ h => ?_⟩
      cases h
      refine ⟨fun id mem => ?_, known⟩
      obtain ⟨row, there, rfl⟩ := List.mem_map.mp mem
      obtain ⟨there, checks⟩ := List.mem_filter.mp there
      simp only [Bool.and_eq_true, decide_eq_true_eq] at checks
      exact ⟨(held.codes row there).1, fun row' there' same =>
        (held.owner row there row' there' same).trans checks.1.1⟩
    · exact failed _ _
    · split
      · exact failed _ _
      · refine ⟨held, stays rfl rfl, fun _ h => ?_⟩
        cases h
        exact known _ rfl
      · exact ⟨held, stays rfl rfl, fun _ h => by cases h; trivial⟩
  | claiming userId step counted =>
    simp only [runTwoFactor]
    split
    · rename_i later
      exact ⟨held.claim later, stays rfl rfl, goesOn_none⟩
    · exact failed _ _
  | consuming userId candidates counted =>
    cases candidates with
    | nil => exact failed _ _
    | cons id rest =>
      simp only [runTwoFactor]
      split
      · rename_i found
        obtain ⟨row, there, free⟩ := List.any_eq_true.mp found
        simp only [Bool.and_eq_true, decide_eq_true_eq] at free
        obtain ⟨rfl, free⟩ := free
        have user := (known.1 row.id List.mem_cons_self).2 row there rfl
        split
        · exact ⟨held.consume there free user, ⟨le_rfl, (codesStay_mark row.id).same⟩, goesOn_none⟩
        · exact ⟨held.mark row.id, codesStay_mark row.id, fun _ h => by cases h; trivial⟩
      · refine ⟨held, stays rfl rfl, fun _ h => ?_⟩
        cases h
        exact ⟨fun i mem => known.1 i (List.mem_cons_of_mem _ mem), known.2⟩
  | recording userId =>
    simp only [runTwoFactor]
    split
    · exact ⟨held, stays rfl rfl, goesOn_none⟩
    · exact ⟨⟨held.codes, held.owner, held.issued, held.used, held.once, held.ordered, held.bounded⟩, stays rfl rfl,
        goesOn_none⟩
  | issuing userId hashes secret =>
    refine ⟨held.issue userId hashes, codesStay_issue userId hashes, fun call' h => ?_⟩
    obtain ⟨-, -, rfl⟩ := Option.map_eq_some_iff.mp h
    trivial
  | enabling userId secret => exact ⟨held.keep fun _ => rfl, stays rfl rfl, goesOn_none⟩
  | unsetting userId => exact ⟨held.keep fun _ => rfl, stays rfl rfl, fun _ h => by cases h; trivial⟩
  | clearing userId =>
    have fewer : ∀ row ∈ db.codes.filter (fun row => row.userId ≠ userId), row ∈ db.codes :=
      fun row mem => (List.mem_filter.mp mem).1
    refine ⟨⟨fun row mem => held.codes row (fewer row mem),
      fun row mem row' mem' => held.owner row (fewer row mem) row' (fewer row' mem'), held.issued, fun u i issuedFrom mem => ?_, held.once,
      held.ordered, held.bounded⟩, ⟨le_rfl, fun row mem _ => ⟨row, fewer row mem, rfl, rfl⟩⟩,
      goesOn_none⟩
    obtain ⟨after, old, closed⟩ := held.used u i issuedFrom mem
    exact ⟨after, old, fun row there => closed row (fewer row there)⟩

def TwoFactorDb.wrongsIn (db : TwoFactorDb) (userId : UserId) (start : Instant) : ℕ :=
  (db.wrongs userId).countP fun moment => start ≤ moment && moment ≤ start + twoFactorFailureWindow

/-- A statement of a challenge that finds its code wrong, and the failures that it has counted. -/
def TwoFactorDb.evaluatesWrong (lib : TwoFactorLibrary) (db : TwoFactorDb) (userId : UserId) :
    TwoFactorCall → Option ℕ
  | .matching u encryptedSecret input counted =>
    if u = userId ∧ input.recoveryCode = none ∧ (input.code.bind fun code =>
        (lib.decryptString encryptedSecret u).bind fun secret => matchStep lib secret code db.clock) = none then
      counted
    else none
  | .claiming u step counted =>
    if u = userId ∧ !(db.users.find u).any fun user => user.twoFactorLastStep.all (· < step) then some counted
    else none
  | .consuming u [] counted => if u = userId then counted else none
  | _ => none

/-- The condition on a step: when a challenge finds its code wrong, no more wrong codes have been evaluated in the
window that ends then than it has counted. -/
def secondFactorInTurn (lib : TwoFactorLibrary) (userId : UserId) (db : TwoFactorDb) (call : TwoFactorCall)
    (input : TwoFactorInput) : Bool :=
  input.stops || (({ db with clock := input.moment } : TwoFactorDb).evaluatesWrong lib userId call).all fun counted =>
    (db.wrongs userId).countP (fun moment => input.moment - twoFactorFailureWindow ≤ moment) ≤ counted

theorem runTwoFactor_wrongs (lib : TwoFactorLibrary) (db : TwoFactorDb) (call : TwoFactorCall) (userId : UserId)
    (lost : Bool) :
    (runTwoFactor lib db lost call).1.clock = db.clock ∧ (runTwoFactor lib db lost call).1.wrongs userId =
      match db.evaluatesWrong lib userId call with
      | some _ => db.clock :: db.wrongs userId
      | none => db.wrongs userId := by
  have failed : ∀ u counted, (db.fail u counted).1.clock = db.clock ∧ (db.fail u counted).1.wrongs userId =
      match (if u = userId then counted else none) with
      | some _ => db.clock :: db.wrongs userId
      | none => db.wrongs userId := by
    intro u counted
    cases counted with
    | none => simp [TwoFactorDb.fail]
    | some n =>
      refine ⟨rfl, ?_⟩
      by_cases own : u = userId <;>
        simp [TwoFactorDb.fail, TwoFactorDb.wrongs, ChallengeEvent.wrongAt, own]
  cases call with
  | counting u secret input =>
    simp only [runTwoFactor]
    split <;> exact ⟨rfl, rfl⟩
  | matching u encryptedSecret input counted =>
    obtain ⟨code, recoveryCode⟩ := input
    cases recoveryCode with
    | some recoveryCode => simp [runTwoFactor, TwoFactorDb.evaluatesWrong]
    | none =>
      cases code with
      | none =>
        have := failed u counted
        simpa [runTwoFactor, TwoFactorDb.evaluatesWrong] using this
      | some code =>
        simp only [runTwoFactor, TwoFactorDb.evaluatesWrong, Option.bind_some, true_and]
        cases matched : (lib.decryptString encryptedSecret u).bind fun secret =>
            matchStep lib secret code db.clock with
        | none => simpa using failed u counted
        | some step => cases counted <;> simp
  | claiming u step counted =>
    simp only [runTwoFactor, TwoFactorDb.evaluatesWrong]
    split
    · rename_i later
      simp only [later, Bool.not_true, Bool.false_eq_true, and_false, if_false]
      exact ⟨trivial, rfl⟩
    · rename_i stale
      simpa [stale] using failed u (some counted)
  | consuming u candidates counted =>
    cases candidates with
    | nil => exact failed u counted
    | cons id rest =>
      simp only [runTwoFactor]
      split
      · split <;> exact ⟨rfl, rfl⟩
      · exact ⟨rfl, rfl⟩
  | recording u =>
    simp only [runTwoFactor]
    split <;> exact ⟨rfl, rfl⟩
  | issuing u hashes secret => exact ⟨rfl, rfl⟩
  | enabling u secret => exact ⟨rfl, rfl⟩
  | unsetting u => exact ⟨rfl, rfl⟩
  | clearing u => exact ⟨rfl, rfl⟩

/-- Every window is within the limit, and no wrong code is later than the clock. -/
structure WindowsHold (userId : UserId) (db : TwoFactorDb) : Prop where
  past : ∀ moment ∈ db.wrongs userId, moment ≤ db.clock
  limit : ∀ start, db.wrongsIn userId start ≤ twoFactorMaxFailures

theorem WindowsHold.tick (held : WindowsHold userId db) (later : db.clock ≤ now) :
    WindowsHold userId { db with clock := now } :=
  ⟨fun moment mem => (held.past moment mem).trans later, held.limit⟩

theorem evaluatesWrong_counted (known : call.Known db) (wrong : db.evaluatesWrong lib userId call = some counted) :
    counted < twoFactorMaxFailures := by
  cases call with
  | matching u encryptedSecret input counted' =>
    simp only [TwoFactorDb.evaluatesWrong] at wrong
    split at wrong
    · exact known counted wrong
    · cases wrong
  | claiming u step counted' =>
    simp only [TwoFactorDb.evaluatesWrong] at wrong
    split at wrong <;> cases wrong
    exact known
  | consuming u candidates counted' =>
    cases candidates with
    | nil =>
      simp only [TwoFactorDb.evaluatesWrong] at wrong
      split at wrong
      · exact known.2 counted wrong
      · cases wrong
    | cons => cases wrong
  | _ => cases wrong

theorem WindowsHold.add (held : WindowsHold userId db) (few : counted < twoFactorMaxFailures)
    (seen : (db.wrongs userId).countP (fun moment => db.clock - twoFactorFailureWindow ≤ moment) ≤ counted)
    (clock : db'.clock = db.clock) (wrongs : db'.wrongs userId = db.clock :: db.wrongs userId) :
    WindowsHold userId db' := by
  refine ⟨fun moment mem => ?_, fun start => ?_⟩
  · rw [clock]
    rw [wrongs] at mem
    rcases List.mem_cons.mp mem with rfl | mem
    · exact le_rfl
    · exact held.past moment mem
  · rw [TwoFactorDb.wrongsIn, wrongs, List.countP_cons]
    split
    · rename_i inside
      simp only [Bool.and_eq_true, decide_eq_true_eq] at inside
      have fewer : (db.wrongs userId).countP (fun moment =>
          start ≤ moment && moment ≤ start + twoFactorFailureWindow) ≤
          (db.wrongs userId).countP fun moment => db.clock - twoFactorFailureWindow ≤ moment := by
        refine List.countP_mono_left fun moment _ within => ?_
        simp only [Bool.and_eq_true, decide_eq_true_eq] at within ⊢
        exact (sub_le_iff_le_add.mpr inside.2).trans within.1
      omega
    · exact held.limit start

theorem stepTwoFactor_windows (held : WindowsHold userId db) (known : call.Known db)
    (inTurn : secondFactorInTurn lib userId db call input = true)
    (made : stepTwoFactor lib db call input = some (db', rest)) : WindowsHold userId db' := by
  simp only [stepTwoFactor] at made
  split at made
  · cases made
  · rename_i later
    have ticked := held.tick (le_of_not_gt later)
    split at made
    · cases made
      exact ticked
    · rename_i goes
      obtain rfl : db' = _ := (congrArg Prod.fst (Option.some.inj made)).symm
      obtain ⟨clock, wrongs⟩ := runTwoFactor_wrongs lib { db with clock := input.moment } call userId input.lost
      rw [secondFactorInTurn, Bool.or_eq_true, or_iff_right goes] at inTurn
      cases wrong : ({ db with clock := input.moment } : TwoFactorDb).evaluatesWrong lib userId call with
      | none =>
        rw [wrong] at wrongs
        refine ⟨fun moment mem => ?_, fun start => ?_⟩
        · rw [wrongs] at mem
          rw [clock]
          exact ticked.past moment mem
        · rw [TwoFactorDb.wrongsIn, wrongs]
          exact ticked.limit start
      | some counted =>
        rw [wrong] at wrongs inTurn
        rw [Option.all_some, decide_eq_true_eq] at inTurn
        have known' : call.Known { db with clock := input.moment } := known.stay (.of_same rfl rfl)
        exact ticked.add (evaluatesWrong_counted known' wrong) inTurn clock wrongs

theorem stepTwoFactor_single (held : SingleUse db) (known : call.Known db)
    (made : stepTwoFactor lib db call input = some (db', rest)) :
    SingleUse db' ∧ CodesStay db db' ∧ ∀ call', rest = some call' → call'.Known db' := by
  simp only [stepTwoFactor] at made
  have ticked : SingleUse { db with clock := input.moment } :=
    ⟨held.codes, held.owner, held.issued, held.used, held.once, held.ordered, held.bounded⟩
  split at made
  · cases made
  · split at made
    · cases made
      exact ⟨ticked, .of_same rfl rfl, goesOn_none⟩
    · obtain rfl : db' = _ := (congrArg Prod.fst (Option.some.inj made)).symm
      obtain rfl : rest = _ := (congrArg Prod.snd (Option.some.inj made)).symm
      obtain ⟨single, stay, next⟩ := runTwoFactor_single lib ticked (known.stay (.of_same rfl rfl))
        input.lost
      exact ⟨single, ⟨stay.later, stay.same⟩, next⟩

/-! ### Runs -/

theorem enterTwoFactor_known {request : TwoFactorRequest} (entered : enterTwoFactor db request = some call) :
    call.Known db := by
  cases request <;> simp only [enterTwoFactor, Option.bind_eq_bind, Option.bind_eq_some_iff, Option.pure_def,
    Option.some.injEq] at entered
  · obtain ⟨-, -, -, -, rfl⟩ := entered
    trivial
  · obtain ⟨-, -, -, -, rfl⟩ := entered
    exact fun _ mem => by cases mem
  · obtain ⟨-, -, -, -, rfl⟩ := entered
    trivial
  · obtain ⟨-, -, rfl⟩ := entered
    trivial

structure TwoFactorStart (db : TwoFactorDb) : Prop where
  codes : ∀ row ∈ db.codes, row.id < db.nextCode ∧ db.lastIssue row.userId ≤ row.id
  distinct : (db.codes.map RecoveryCode.id).Nodup
  issued : ∀ userId, db.lastIssue userId ≤ db.nextCode
  events : db.events = []

theorem TwoFactorStart.single (start : TwoFactorStart db) : SingleUse db := by
  refine ⟨start.codes, fun row mem row' mem' same => ?_, start.issued, fun u i issuedFrom mem => ?_, ?_, fun u => ?_,
    fun u step mem => ?_⟩
  · rw [List.inj_on_of_nodup_map start.distinct mem' mem same]
  · rw [start.events] at mem
    cases mem
  · rw [TwoFactorDb.codesUsed, start.events]
    exact List.nodup_nil
  · rw [TwoFactorDb.steps, start.events]
    exact List.Pairwise.nil
  · rw [TwoFactorDb.steps, start.events] at mem
    cases mem

/-- In every run, the steps that pass are ever later ones, each recovery code passes once, and after the last
issue; and in a run that meets the condition, no window has more wrong codes than the limit. -/
theorem second_factor_holds {t : State TwoFactorDb TwoFactorCall} (start : TwoFactorStart db) :
    (Reaches (twoFactorSystem lib).step ⟨db, []⟩ t →
      (∀ userId, (t.db.steps userId).Pairwise (· > ·)) ∧ t.db.codesUsed.Nodup ∧
        ∀ userId id issuedFrom, .code userId id issuedFrom ∈ t.db.events → issuedFrom ≤ id) ∧
    ∀ userId, Run (twoFactorSystem lib).step
        (System.admits fun db call input => secondFactorInTurn lib userId db call input = true) ⟨db, []⟩ t →
      ∀ start, t.db.wrongsIn userId start ≤ twoFactorMaxFailures := by
  constructor
  · intro run
    have held : SingleUse t.db := (System.invariant (P := SingleUse) (Q := fun db call => call.Known db)
      (System.admitted run) start.single (fun _ mem => (List.not_mem_nil mem).elim)
      (fun _ entered => enterTwoFactor_known entered) fun held known _ made => by
        obtain ⟨single, stay, next⟩ := stepTwoFactor_single held known made
        exact ⟨single, next, fun _ other => other.stay stay⟩).1
    exact ⟨held.ordered, held.once, fun u i issuedFrom mem => (held.used u i issuedFrom mem).1⟩
  · intro userId run
    have idle : WindowsHold userId db := by
      refine ⟨fun moment mem => ?_, fun window => ?_⟩
      · rw [TwoFactorDb.wrongs, start.events] at mem
        cases mem
      · rw [TwoFactorDb.wrongsIn, TwoFactorDb.wrongs, start.events]
        exact Nat.zero_le _
    exact (System.invariant (P := fun db => SingleUse db ∧ WindowsHold userId db)
      (Q := fun db call => call.Known db) run ⟨start.single, idle⟩ (fun _ mem => (List.not_mem_nil mem).elim)
      (fun _ entered => enterTwoFactor_known entered) fun held known inTurn made => by
        obtain ⟨single, stay, next⟩ := stepTwoFactor_single held.1 known made
        exact ⟨⟨single, stepTwoFactor_windows held.2 known inTurn made⟩, next, fun _ other => other.stay stay⟩).1.2.limit

/-! ### A user with a second factor -/

/-- A library whose codes name the step that they are off, and whose hashes are the texts. -/
def plainLibrary : TwoFactorLibrary where
  decryptString secret _ := some secret
  validate _ code _ := if code = "000000" then some 0 else if code = "000001" then some 1 else none
  argonVerify hash text := hash = text

def twoFactorUser : TwoFactorDb where
  users := Table.empty.push ⟨true, some "secret", none⟩
  codes := [⟨0, 0, "AAAAAAAA", none⟩]
  nextCode := 1
  failures := []
  events := []
  lastIssue _ := 0
  clock := 0

theorem twoFactorUser_start : TwoFactorStart twoFactorUser where
  codes := by decide
  distinct := by decide
  issued _ := Nat.zero_le _
  events := rfl

def challengeOf (code : String) : TwoFactorRequest := .challenge 0 ⟨some code, none⟩

def challengesInTurn (challenges : List (TwoFactorRequest × ℕ)) :
    List (Action TwoFactorRequest TwoFactorInput) :=
  challenges.flatMap fun q => .start q.1 :: List.replicate q.2 (.advance 0 ⟨60000, false, false⟩)

/-- A code that passes, the same again, a later one, and a recovery code twice. -/
def passedOnce : List (Action TwoFactorRequest TwoFactorInput) :=
  challengesInTurn [(challengeOf "000000", 3), (challengeOf "000000", 4), (challengeOf "000001", 3),
    (.challenge 0 ⟨none, some "AAAA-AAAA"⟩, 3), (.challenge 0 ⟨none, some "AAAA-AAAA"⟩, 4)]

theorem second_factor_holds_passed : ∃ t : State TwoFactorDb TwoFactorCall,
    (t.db.steps 0 = [3, 2] ∧ t.db.codesUsed = [0] ∧ t.db.wrongs 0 = [60000, 60000]) ∧
    ((∀ userId, (t.db.steps userId).Pairwise (· > ·)) ∧ t.db.codesUsed.Nodup ∧
      ∀ userId id issuedFrom, .code userId id issuedFrom ∈ t.db.events → issuedFrom ≤ id) ∧
    ∀ start, t.db.wrongsIn 0 start ≤ twoFactorMaxFailures := by
  obtain ⟨t, run, passed⟩ := Run.exists_of_exec (twoFactorSystem plainLibrary).step
    (System.admits fun db call input => secondFactorInTurn plainLibrary 0 db call input = true)
    ⟨twoFactorUser, []⟩ passedOnce
    (fun t => t.db.steps 0 = [3, 2] ∧ t.db.codesUsed = [0] ∧ t.db.wrongs 0 = [60000, 60000]) (by decide +kernel)
  exact ⟨t, of_decide_eq_true passed, (second_factor_holds twoFactorUser_start).1 (run.mono fun _ _ _ => trivial),
    (second_factor_holds twoFactorUser_start).2 0 run⟩

/-- Six challenges that count before any of them evaluates its wrong code. -/
def sixAtOnce : List (Action TwoFactorRequest TwoFactorInput) :=
  List.replicate 6 (.start (challengeOf "999999")) ++
    (List.range 6).map (fun i => .advance i ⟨1, false, false⟩) ++
    (List.range 6).map fun i => .advance i ⟨2, false, false⟩

theorem second_factor_exceeded : TwoFactorStart twoFactorUser ∧
    ¬∀ t, Reaches (twoFactorSystem plainLibrary).step ⟨twoFactorUser, []⟩ t →
      ∀ start, t.db.wrongsIn 0 start ≤ twoFactorMaxFailures := by
  refine ⟨twoFactorUser_start, fun all => ?_⟩
  obtain ⟨t, run, six⟩ := Run.exists_of_exec (twoFactorSystem plainLibrary).step (fun _ _ => True)
    ⟨twoFactorUser, []⟩ sixAtOnce (fun t => t.db.wrongsIn 0 0 = 6) (by decide +kernel)
  have most := all t run 0
  rw [of_decide_eq_true six] at most
  exact absurd most (by decide)

end StorageOS
