import StorageOS.Billing.AeatAnswers

/-! The stored statuses tell what the AEAT holds. A record is sent after the one before it is resolved in every run;
an acceptance stays and a rejection is of a record that is not registered, in the runs where no answer is lost. -/

namespace StorageOS

open Transition Processes

variable {db db' : VerifactuDb} {call : VerifactuCall} {input : VerifactuInput}
  {rest : Option VerifactuCall} {response : Option SoapResponse} {id : InvoiceId}
  {inv : VerifactuInvoice} {running : List VerifactuCall} {i : ℕ}

/-! ### Order -/

/-- A record that was sent follows one that was stored as accepted or rejected. -/
def SentInOrder (db : VerifactuDb) : Prop :=
  ∀ id inv prev before, db.find id = some inv → inv.sent = true →
    inv.previousInvoiceId = some prev → db.find prev = some before → before.resolved = true

/-- The stored records are resolved, and the chain is of stored records. -/
structure Chained (db : VerifactuDb) : Prop where
  resolved : ∀ id inv, db.find id = some inv → inv.aeatStatus.any AeatStatus.isResolved = true →
    inv.resolved = true
  previous : ∀ id inv prev, db.find id = some inv → inv.previousInvoiceId = some prev →
    ∃ before, db.find prev = some before
  sent : SentInOrder db

def Sendable (db : VerifactuDb) (id : InvoiceId) : Prop :=
  ∀ inv prev before, db.find id = some inv → inv.previousInvoiceId = some prev →
    db.find prev = some before → before.resolved = true

def VerifactuCall.InOrder (db : VerifactuDb) : VerifactuCall → Prop
  | .querying id | .posting id => (∃ inv, db.find id = some inv) ∧ Sendable db id
  | _ => True

structure VerifactuInvoice.Follows (inv inv' : VerifactuInvoice) : Prop where
  previous : inv'.previousInvoiceId = inv.previousInvoiceId
  resolved : inv.resolved = true → inv'.resolved = true

def FollowsAll (db db' : VerifactuDb) : Prop :=
  (∀ id inv, db.find id = some inv → ∃ inv', db'.find id = some inv' ∧ inv.Follows inv') ∧
  ∀ id inv', db'.find id = some inv' → (∃ inv, db.find id = some inv) ∨ id = db.nextKey

theorem VerifactuInvoice.Follows.refl (inv : VerifactuInvoice) : inv.Follows inv := ⟨rfl, id⟩

variable {f : VerifactuInvoice → VerifactuInvoice}

theorem followsAll_modify (row : ∀ inv, db.find id = some inv → inv.Follows (f inv)) :
    FollowsAll db (db.modify id f) := by
  refine ⟨fun k inv found => ?_, fun k inv' found => ?_⟩
  · exact Table.exists_find_modify found (row inv) (.refl inv)
  · rcases Table.find_modify_cases found with ⟨-, before⟩ | ⟨rfl, inv, before, -⟩
    · exact .inl ⟨inv', before⟩
    · exact .inl ⟨inv, before⟩

theorem store_follows (result : AeatResult) (inv : VerifactuInvoice) :
    inv.Follows (inv.store result) :=
  ⟨rfl, fun resolved => by rw [VerifactuInvoice.store, resolved]; rfl⟩

theorem saveStatus_follows (result : AeatResult) (inv : VerifactuInvoice) :
    inv.Follows (inv.saveStatus result) :=
  ⟨rfl, fun resolved => by rw [VerifactuInvoice.saveStatus, resolved]; rfl⟩

theorem VerifactuMove.follows (move : VerifactuMove db call input db' rest) : FollowsAll db db' := by
  cases move with
  | issues =>
    refine ⟨fun k inv found => ⟨inv, Table.find_push_of_some found _, .refl inv⟩, fun k inv' found => ?_⟩
    rw [Table.find_push] at found
    split at found
    · rename_i new
      exact .inr new
    · exact .inl ⟨inv', found⟩
  | posts => exact followsAll_modify fun inv _ => ⟨rfl, id⟩
  | stores => exact followsAll_modify fun inv _ => store_follows _ inv
  | saves => exact followsAll_modify fun inv _ => saveStatus_follows _ inv
  | reads | sends | resends | knows | confirms =>
    exact ⟨fun k inv found => ⟨inv, found, .refl inv⟩, fun k inv' found => .inl ⟨inv', found⟩⟩

theorem Sendable.keep (sendable : Sendable db id) (chained : Chained db)
    (follows : FollowsAll db db') (stored : db.find id = some inv) : Sendable db' id := by
  intro inv' prev before' found own there
  obtain ⟨inv'', found'', kept⟩ := follows.1 id inv stored
  rw [found] at found''
  cases found''
  have own' : inv.previousInvoiceId = some prev := kept.previous ▸ own
  obtain ⟨before, known⟩ := chained.previous id inv prev stored own'
  obtain ⟨before'', there'', kept'⟩ := follows.1 prev before known
  rw [there] at there''
  cases there''
  exact kept'.resolved (sendable inv prev before stored own' known)

theorem VerifactuCall.InOrder.keep {other : VerifactuCall} (inOrder : other.InOrder db)
    (chained : Chained db) (follows : FollowsAll db db') : other.InOrder db' := by
  cases other with
  | querying id | posting id =>
    obtain ⟨⟨inv, stored⟩, sendable⟩ := inOrder
    obtain ⟨inv', stored', -⟩ := follows.1 id inv stored
    exact ⟨⟨inv', stored'⟩, sendable.keep chained follows stored⟩
  | _ => trivial

theorem sendable_of_inOrder (chained : Chained db) (found : db.find id = some inv)
    (inOrder : awaitsPrevious db inv = false) : Sendable db id := by
  intro inv' prev before found' own there
  rw [found] at found'
  cases found'
  simp only [awaitsPrevious, own, Option.bind_some, there, Option.any_some, Bool.not_eq_false']
    at inOrder
  exact chained.resolved prev before there inOrder

theorem VerifactuMove.inOrder {call' : VerifactuCall}
    (move : VerifactuMove db call input db' (some call')) (chained : Chained db)
    (inOrder : call.InOrder db) : call'.InOrder db' := by
  cases move with
  | reads about next =>
    obtain ⟨id, rfl⟩ := next call' rfl
    trivial
  | sends found order next =>
    have sendable := sendable_of_inOrder chained found order
    rcases next with rfl | rfl <;> exact ⟨⟨_, found⟩, sendable⟩
  | resends => exact inOrder
  | posts found fresh truth next =>
    cases next
    split <;> trivial
  | knows | confirms => trivial

theorem Chained.modify (chained : Chained db) (row : ∀ inv, db.find id = some inv → inv.Follows (f inv))
    (resolved : ∀ inv, db.find id = some inv →
      (f inv).aeatStatus.any AeatStatus.isResolved = true → (f inv).resolved = true)
    (sent : ∀ inv, db.find id = some inv → (f inv).sent = true → inv.sent = true ∨ Sendable db id) :
    Chained (db.modify id f) := by
  have follows := followsAll_modify row
  have kept : ∀ k inv prev, db.find k = some inv → inv.previousInvoiceId = some prev →
      ∃ before, (db.modify id f).find prev = some before := by
    intro k inv prev found own
    obtain ⟨before, known⟩ := chained.previous k inv prev found own
    obtain ⟨before', known', -⟩ := follows.1 prev before known
    exact ⟨before', known'⟩
  refine ⟨fun k inv found answered => ?_, fun k inv prev found own => ?_,
    fun k inv prev before found isSent own there => ?_⟩
  · rcases Table.find_modify_cases found with ⟨-, stays⟩ | ⟨rfl, inv', stays, rfl⟩
    · exact chained.resolved k inv stays answered
    · exact resolved inv' stays answered
  · rcases Table.find_modify_cases found with ⟨-, stays⟩ | ⟨rfl, inv', stays, rfl⟩
    · exact kept k inv prev stays own
    · exact kept k inv' prev stays ((row inv' stays).previous ▸ own)
  · have sendable : ∀ inv', db.find k = some inv' → inv'.sent = true → Sendable db k := by
      intro inv' stays isSent' inv'' prev' before' found' own' there'
      rw [stays] at found'
      cases found'
      exact chained.sent k inv' prev' before' stays isSent' own' there'
    rcases Table.find_modify_cases found with ⟨-, stays⟩ | ⟨rfl, inv', stays, rfl⟩
    · exact (sendable inv stays isSent).keep chained follows stays inv prev before found own there
    · rcases sent inv' stays isSent with already | may
      · exact (sendable inv' stays already).keep chained follows stays _ prev before found own there
      · exact may.keep chained follows stays _ prev before found own there

theorem VerifactuMove.chained (move : VerifactuMove db call input db' rest) (chained : Chained db)
    (inOrder : call.InOrder db) : Chained db' := by
  cases move with
  | issues known =>
    refine ⟨fun k inv found answered => ?_, fun k inv prev found own => ?_,
      fun k inv prev before found isSent own there => ?_⟩
    · rw [Table.find_push] at found
      split at found
      · cases found
        cases answered
      · exact chained.resolved k inv found answered
    · rw [Table.find_push] at found
      split at found
      · cases found
        obtain ⟨before, there⟩ := known prev own
        exact ⟨before, Table.find_push_of_some there _⟩
      · obtain ⟨before, there⟩ := chained.previous k inv prev found own
        exact ⟨before, Table.find_push_of_some there _⟩
    · rw [Table.find_push] at found
      split at found
      · cases found
        cases isSent
      · obtain ⟨before', there'⟩ := chained.previous k inv prev found own
        rw [Table.find_push_of_some there'] at there
        cases there
        exact chained.sent k inv prev before found isSent own there'
  | posts =>
    exact chained.modify (fun inv _ => ⟨rfl, id⟩) (fun inv found => chained.resolved _ inv found)
      fun _ _ _ => .inr inOrder.2
  | stores =>
    refine chained.modify (fun inv _ => store_follows _ inv) (fun inv found answered => ?_)
      fun _ _ isSent => .inl isSent
    exact Bool.or_eq_true_iff.mpr (.inr answered)
  | saves =>
    refine chained.modify (fun inv _ => saveStatus_follows _ inv) (fun inv found answered => ?_)
      fun _ _ isSent => .inl isSent
    exact Bool.or_eq_true_iff.mpr (.inr answered)
  | reads | sends | resends | knows | confirms => exact chained

/-! ### Answers in turn -/

def VerifactuCall.result : VerifactuCall → Option (InvoiceId × AeatResult)
  | .storing id result | .saving id result => some (id, result)
  | _ => none

def VerifactuInvoice.isAccepted (inv : VerifactuInvoice) : Bool :=
  inv.aeatStatus.any AeatStatus.isAccepted

def waits (running : List VerifactuCall) (id : InvoiceId) (status : AeatStatus) : Bool :=
  running.any fun call => call.result.any fun r => r.1 = id && r.2.status.stored = status

/-- The exchanges about an accepted invoice are answered, a duplicate is confirmed, and no fault answers
for a registered record. A record is registered while no rejection of it waits to be stored, and an
acceptance is stored, with its CSV, while no error waits. -/
def answersInTurn (s : State VerifactuDb VerifactuCall) : VerifactuCall → VerifactuInput → Bool
  | .posting id, .posted registers response => (s.db.find id).all fun inv =>
    ((sendInvoice response).status ≠ .error || !inv.isAccepted) &&
    (response.all fun r => 500 ≤ r.status || r.faultstring.isNone || inv.registered = none) &&
    (registers = none || !waits s.running id .rejected)
  | .confirming id _, .answered response => (s.db.find id).all fun inv =>
    (getStatus response).status.isAccepted || inv.registered = none
  | .polling id, .answered response => (s.db.find id).all fun inv =>
    (getStatus response).status ≠ .error || !inv.isAccepted
  | .storing id result, .proceed => (s.db.find id).all fun inv => !result.status.isAccepted ||
    (!waits s.running id .error && (result.csv.isSome || inv.aeatCsv = none))
  | .saving id result, .proceed => !result.status.isAccepted || !waits s.running id .error
  | _, _ => true

structure AeatResult.Tells (db : VerifactuDb) (id : InvoiceId) (result : AeatResult) : Prop where
  accepted : ∀ inv, db.find id = some inv → result.status.isAccepted = true →
    ∃ verdict, inv.registered = some verdict ∧ result.status = verdict.status
  rejected : ∀ inv, db.find id = some inv → result.status = .rejected → inv.registered = none
  error : ∀ inv, db.find id = some inv → result.status = .error → inv.isAccepted = false
  answered : result.status ≠ .pending
  stored : ∃ inv, db.find id = some inv

/-- A record is being sent again, and its answer is about to be stored. -/
def VerifactuCall.resends (id : InvoiceId) (call : VerifactuCall) : Prop :=
  ∃ result, call = .storing id result ∧ result.status ≠ .rejected

/-- The stored acceptances are those of the AEAT, the results under way tell of their records, and a
registered record that is stored as rejected is being sent again. -/
structure Told (s : State VerifactuDb VerifactuCall) : Prop where
  verdicts : ∀ id inv, s.db.find id = some inv → inv.isAccepted = true →
    ∃ verdict, inv.registered = some verdict ∧ inv.aeatStatus = some verdict.status
  results : ∀ call ∈ s.running, ∀ r, call.result = some r → r.2.Tells s.db r.1
  confirming : ∀ id result, .confirming id result ∈ s.running → result.status = .rejected
  rejected : ∀ id inv, s.db.find id = some inv → inv.aeatStatus = some .rejected →
    inv.registered ≠ none → ∃ call ∈ s.running, call.resends id

theorem Told.goesOn (told : Told ⟨db, running⟩) (place : running[i]? = some call)
    (idle : ∀ id, ¬call.resends id)
    (results : ∀ call' r, rest = some call' → call'.result = some r → r.2.Tells db r.1)
    (confirming : ∀ id result, rest = some (.confirming id result) → result.status = .rejected) :
    Told ⟨db, resume running i rest⟩ := by
  refine ⟨told.verdicts, fun call' mem r own => ?_, fun id result mem => ?_,
    fun id inv found stored registered => ?_⟩
  · rcases mem_resume mem with mem | same
    · exact told.results call' mem r own
    · exact results call' r same own
  · have mem : _ ∈ resume running i rest := mem
    rcases mem_resume mem with mem | same
    · exact told.confirming id result mem
    · exact confirming id result same
  · exact exists_resume place (told.rejected id inv found stored registered)
      fun does => absurd does (idle id)

theorem waits_iff {status : AeatStatus} : waits running id status = true ↔
    ∃ call ∈ running, ∃ result, call.result = some (id, result) ∧ result.status.stored = status := by
  simp only [waits, List.any_eq_true, Option.any_eq_true, Bool.and_eq_true, decide_eq_true_eq]
  constructor
  · rintro ⟨call, mem, r, own, rfl, same⟩
    exact ⟨call, mem, r.2, own, same⟩
  · rintro ⟨call, mem, result, own, same⟩
    exact ⟨call, mem, (id, result), own, rfl, same⟩

/-! ### Writes -/

variable {result : AeatResult}

theorem AeatResult.Tells.of_rows {k : InvoiceId} (tells : result.Tells db k)
    (row : ∀ inv', db'.find k = some inv' → ∃ inv, db.find k = some inv ∧
      inv'.registered = inv.registered ∧ inv'.aeatStatus = inv.aeatStatus) (stored : ∃ inv', db'.find k = some inv') :
    result.Tells db' k := by
  refine ⟨fun inv' found accepted => ?_, fun inv' found rejected => ?_, fun inv' found error => ?_,
    tells.answered, stored⟩ <;> obtain ⟨inv, before, registered, status⟩ := row inv' found
  · rw [registered]
    exact tells.accepted inv before accepted
  · rw [registered]
    exact tells.rejected inv before rejected
  · rw [VerifactuInvoice.isAccepted, status]
    exact tells.error inv before error

theorem AeatResult.Tells.modify_other {k : InvoiceId} (tells : result.Tells db k) (other : k ≠ id)
    (f : VerifactuInvoice → VerifactuInvoice) : result.Tells (db.modify id f) k := by
  have same := Table.find_modify_ne db other f
  refine tells.of_rows (fun inv found => ⟨inv, same ▸ found, rfl, rfl⟩) ?_
  rw [same]
  exact tells.stored

variable (told : Told ⟨db, running⟩)
include told

theorem Told.write (place : running[i]? = some call) (own : call.result = some (id, result))
    (kept : ∀ inv, (f inv).registered = inv.registered)
    (stored : ∀ inv, (f inv).aeatStatus = some result.status.stored)
    (calm : result.status.isAccepted = true → waits running id .error = false) :
    Told ⟨db.modify id f, resume running i none⟩ := by
  have tells := told.results call (List.mem_of_getElem? place) _ own
  refine ⟨fun k inv found accepted => ?_, fun call' mem r own' => ?_, fun k result' mem => ?_,
    fun k inv found isRejected registered => ?_⟩
  · rcases Table.find_modify_cases found with ⟨-, before⟩ | ⟨rfl, inv', before, rfl⟩
    · exact told.verdicts k inv before accepted
    · rw [VerifactuInvoice.isAccepted, stored, Option.any_some, isAccepted_stored] at accepted
      obtain ⟨verdict, held, same⟩ := tells.accepted inv' before accepted
      refine ⟨verdict, (kept inv').trans held, ?_⟩
      rw [stored, same]
      cases verdict <;> rfl
  · have before := List.mem_of_mem_eraseIdx mem
    have tells' := told.results call' before r own'
    by_cases same : r.1 = id
    · obtain ⟨k, result'⟩ := r
      subst same
      dsimp only at tells' ⊢
      refine ⟨fun inv found accepted => ?_, fun inv found rejected => ?_, fun inv found error => ?_,
        tells'.answered, ?_⟩
      · rw [Table.find_modify_self, Option.map_eq_some_iff] at found
        obtain ⟨inv', there, rfl⟩ := found
        rw [kept]
        exact tells'.accepted inv' there accepted
      · rw [Table.find_modify_self, Option.map_eq_some_iff] at found
        obtain ⟨inv', there, rfl⟩ := found
        rw [kept]
        exact tells'.rejected inv' there rejected
      · rw [Table.find_modify_self, Option.map_eq_some_iff] at found
        obtain ⟨inv', there, rfl⟩ := found
        rw [VerifactuInvoice.isAccepted, stored, Option.any_some, isAccepted_stored]
        by_contra accepted
        rw [Bool.not_eq_false] at accepted
        have waiting : waits running k .error = true :=
          waits_iff.mpr ⟨call', before, result', own', by rw [error]; rfl⟩
        rw [calm accepted] at waiting
        cases waiting
      · obtain ⟨inv, there⟩ := tells'.stored
        exact ⟨f inv, by rw [Table.find_modify_self, there]; rfl⟩
    · exact tells'.modify_other same f
  · exact told.confirming k result' (List.mem_of_mem_eraseIdx mem)
  · rcases Table.find_modify_cases found with ⟨other, before⟩ | ⟨rfl, inv', before, rfl⟩
    · show ∃ other ∈ resume running i none, other.resends k
      refine exists_resume place (told.rejected k inv before isRejected registered) fun does => ?_
      obtain ⟨result', rfl, -⟩ := does
      cases own
      exact absurd rfl other
    · rw [stored, Option.some.injEq, stored_eq_rejected] at isRejected
      rw [kept] at registered
      exact absurd (tells.rejected inv' before isRejected) registered

/-- A record is sent: what it registers is not rejected under way, and its answer tells it. -/
theorem Told.post {registers : Option AeatVerdict} (place : running[i]? = some (.posting id))
    (found : db.find id = some inv) (fresh : ∀ verdict, registers = some verdict → inv.registered = none)
    (truth : response.all (fun r => r.answersAlta inv.registered registers) = true)
    (fits : answersInTurn ⟨db, running⟩ (.posting id) (.posted registers response) = true) :
    Told ⟨db.modify id (VerifactuInvoice.post registers), resume running i
      (some (if (sendInvoice response).isDuplicate then .confirming id (sendInvoice response)
        else .storing id (sendInvoice response)))⟩ := by
  simp only [answersInTurn, found, Option.all_some, Bool.and_eq_true, Bool.or_eq_true,
    decide_eq_true_eq, Bool.not_eq_true', ne_eq] at fits
  obtain ⟨⟨lost, fault⟩, alone⟩ := fits
  have rejects : (sendInvoice response).status = .rejected →
      (sendInvoice response).isDuplicate = false → registers = none ∧ inv.registered = none := by
    intro rejected unknown
    obtain ⟨none_, held | duplicate | ⟨r, rfl, below, text⟩⟩ := sendInvoice_rejected truth rejected
    · exact ⟨none_, held⟩
    · rw [unknown] at duplicate
      cases duplicate
    · rw [Option.all_some, Bool.or_eq_true, Bool.or_eq_true, decide_eq_true_eq, decide_eq_true_eq,
        Option.isNone_iff_eq_none] at fault
      rcases fault with (server | none_') | held
      · exact absurd below (not_lt.mpr server)
      · rw [none_'] at text
        cases text
      · exact ⟨none_, held⟩
  -- The row after the post holds the same status, and what was registered.
  have row : ∀ inv', (db.modify id (VerifactuInvoice.post registers)).find id = some inv' →
      inv' = inv.post registers := by
    intro inv' there
    rw [Table.find_modify_self, found] at there
    exact (Option.some.inj there).symm
  have keeps : ∀ verdict, inv.registered = some verdict →
      (inv.post registers).registered = some verdict := by
    intro verdict held
    cases registers with
    | none => exact held
    | some verdict' => rw [fresh verdict' rfl] at held; cases held
  refine ⟨fun k inv' there accepted => ?_, fun call' mem r own => ?_, fun k result mem => ?_,
    fun k inv' there isRejected registered => ?_⟩
  · by_cases same : k = id
    · subst same
      obtain rfl := row inv' there
      obtain ⟨verdict, held, status⟩ := told.verdicts k inv found accepted
      exact ⟨verdict, keeps verdict held, status⟩
    · dsimp only at there
      rw [Table.find_modify_ne _ same] at there
      exact told.verdicts k inv' there accepted
  · have mem : call' ∈ resume running i (some _) := mem
    rcases mem_resume mem with before | new
    · have tells := told.results call' before r own
      by_cases same : r.1 = id
      · obtain ⟨k, result⟩ := r
        subst same
        dsimp only at tells ⊢
        refine ⟨fun inv' there accepted => ?_, fun inv' there rejected => ?_, fun inv' there error => ?_,
          tells.answered, inv.post registers, by rw [Table.find_modify_self, found]; rfl⟩ <;>
          obtain rfl := row inv' there
        · obtain ⟨verdict, held, status⟩ := tells.accepted inv found accepted
          exact ⟨verdict, keeps verdict held, status⟩
        · rcases alone with none_ | calm
          · rw [none_]
            exact tells.rejected inv found rejected
          · have waiting : waits running k .rejected = true :=
              waits_iff.mpr ⟨call', before, result, own, by rw [rejected]; rfl⟩
            rw [calm] at waiting
            cases waiting
        · exact tells.error inv found error
      · exact tells.modify_other same _
    · rw [Option.some.injEq] at new
      subst new
      split at own
      · cases own
      · rename_i unknown
        cases own
        refine ⟨fun inv' there accepted => ?_, fun inv' there rejected => ?_, fun inv' there error => ?_,
          sendInvoice_not_pending response, inv.post registers,
          by rw [Table.find_modify_self, found]; rfl⟩ <;> obtain rfl := row inv' there
        · obtain ⟨verdict, held, status⟩ := sendInvoice_accepted truth accepted
          exact ⟨verdict, by rw [VerifactuInvoice.post, held]; rfl, status⟩
        · obtain ⟨none_, held⟩ := rejects rejected (Bool.not_eq_true _ ▸ unknown)
          rw [none_]
          exact held
        · exact lost.resolve_left (not_not_intro error)
  · have mem : _ ∈ resume running i (some _) := mem
    rcases mem_resume mem with mem | new
    · exact told.confirming k result mem
    · rw [Option.some.injEq] at new
      split at new
      · rename_i duplicate
        cases new
        exact of_decide_eq_true (Bool.and_eq_true_iff.mp duplicate).1
      · cases new
  · by_cases same : k = id
    · subst same
      obtain rfl := row inv' there
      cases sends : registers with
      | some verdict =>
        have unrejected : (sendInvoice response).status ≠ .rejected := by
          intro rejected
          have none_ := (sendInvoice_rejected truth rejected).1
          rw [sends] at none_
          cases none_
        have unknown : (sendInvoice response).isDuplicate = false := by
          rw [AeatResult.isDuplicate, decide_eq_false unrejected]
          rfl
        rw [unknown]
        exact ⟨_, mem_resume_self place _, _, rfl, unrejected⟩
      | none =>
        rw [sends] at isRejected registered
        show ∃ other ∈ resume running i (some _), other.resends k
        refine exists_resume place (told.rejected k inv found isRejected registered) fun does => ?_
        obtain ⟨result, no, -⟩ := does
        cases no
    · dsimp only at there
      rw [Table.find_modify_ne _ same] at there
      show ∃ other ∈ resume running i (some _), other.resends k
      refine exists_resume place (told.rejected k inv' there isRejected registered) fun does => ?_
      obtain ⟨result, no, -⟩ := does
      cases no

/-! ### Runs -/

theorem Told.issue {previous : Option InvoiceId} {tenantId : TenantId} {issuedByHolded : Bool}
    (place : running[i]? = some call) (idle : ∀ id, ¬call.resends id) :
    Told ⟨db.push ⟨tenantId, issuedByHolded, previous, some .pending, false, none, none, false, false⟩,
      resume running i none⟩ := by
  refine ⟨fun k inv found accepted => ?_, fun call' mem r own => ?_, fun k result mem =>
    told.confirming k result (List.mem_of_mem_eraseIdx mem), fun k inv found stored registered => ?_⟩
  · dsimp only at found
    rw [Table.find_push] at found
    split at found
    · cases found
      cases accepted
    · exact told.verdicts k inv found accepted
  · have tells := told.results call' (List.mem_of_mem_eraseIdx mem) r own
    obtain ⟨inv, there⟩ := tells.stored
    refine tells.of_rows (fun inv' found => ⟨inv', ?_, rfl, rfl⟩)
      ⟨inv, Table.find_push_of_some there _⟩
    rw [Table.find_push_of_some there] at found
    rw [there, found]
  · dsimp only at found
    rw [Table.find_push] at found
    split at found
    · cases found
      cases stored
    · show ∃ other ∈ resume running i none, other.resends k
      exact exists_resume place (told.rejected k inv found stored registered)
        fun does => absurd does (idle k)

omit told

theorem tells_getStatus (found : db.find id = some inv)
    (truth : response.all (fun r => r.answersStatus inv.registered) = true)
    (error : (getStatus response).status = .error → inv.isAccepted = false)
    (answered : (getStatus response).status ≠ .pending) : (getStatus response).Tells db id := by
  refine ⟨fun inv' there accepted => ?_, fun inv' there rejected => ?_, fun inv' there lost => ?_,
    answered, inv, found⟩ <;> rw [found] at there <;> cases there
  · exact (getStatus_truth truth).1 accepted
  · exact (getStatus_truth truth).2 rejected
  · exact error lost

theorem Told.step (told : Told ⟨db, running⟩) (place : running[i]? = some call)
    (fits : answersInTurn ⟨db, running⟩ call input = true)
    (move : VerifactuMove db call input db' rest) : Told ⟨db', resume running i rest⟩ := by
  cases move with
  | issues => exact told.issue place fun id does => by obtain ⟨_, no, -⟩ := does; cases no
  | reads about next =>
    refine told.goesOn place (fun id does => ?_) (fun call' r same own => ?_) fun id result same => ?_
    · obtain ⟨result, rfl, -⟩ := does
      rcases about with ⟨_, no⟩ | ⟨_, _, no⟩ | ⟨_, no⟩ <;> cases no
    · obtain ⟨id, rfl⟩ := next call' same
      cases own
    · obtain ⟨_, no⟩ := next _ same
      cases no
  | sends found inOrder next =>
    refine told.goesOn place (fun id does => by obtain ⟨_, no, -⟩ := does; cases no)
      (fun call' r same own => ?_) fun id result same => ?_
    · cases same
      rcases next with rfl | rfl <;> cases own
    · cases same
      rcases next with no | no <;> cases no
  | resends =>
    refine told.goesOn place (fun id does => by obtain ⟨_, no, -⟩ := does; cases no)
      (fun call' r same own => ?_) fun id result same => ?_
    · cases same
      cases own
    · cases same
  | @knows call id inv response found truth about =>
    refine told.goesOn place (fun k does => ?_) (fun call' r same own => ?_)
      fun k result same => by cases same
    · obtain ⟨result, rfl, -⟩ := does
      rcases about with ⟨no, -⟩ | ⟨no, -⟩ <;> cases no
    · cases same
      cases own
      rcases about with ⟨-, accepted⟩ | ⟨rfl, answered⟩
      · refine tells_getStatus found truth (fun error => ?_) fun pending => ?_
        · rw [error] at accepted
          cases accepted
        · rw [pending] at accepted
          cases accepted
      · simp only [answersInTurn, found, Option.all_some, Bool.or_eq_true, decide_eq_true_eq,
          Bool.not_eq_true'] at fits
        exact tells_getStatus found truth (fun error => fits.resolve_left (not_not_intro error)) answered
  | posts found fresh truth next =>
    subst next
    exact told.post place found fresh truth fits
  | @confirms id inv result result' response found truth next =>
    have mem := List.mem_of_getElem? place
    have rejected := told.confirming id result mem
    refine told.goesOn place (fun k does => by obtain ⟨_, no, -⟩ := does; cases no)
      (fun call' r same own => ?_) fun k result same => by cases same
    cases same
    cases own
    rcases next with ⟨accepted, same⟩ | ⟨unknown, rfl⟩
    · refine ⟨fun inv' there _ => ?_, fun inv' there no => ?_, fun inv' there no => ?_, fun no => ?_,
        inv, found⟩
      · rw [found] at there
        cases there
        rw [same]
        exact (getStatus_truth truth).1 accepted
      · rw [← same, no] at accepted
        cases accepted
      · rw [← same, no] at accepted
        cases accepted
      · rw [← same, no] at accepted
        cases accepted
    · simp only [answersInTurn, found, Option.all_some, unknown, Bool.false_or,
        decide_eq_true_eq] at fits
      refine ⟨fun inv' there no => ?_, fun inv' there _ => ?_, fun inv' there no => ?_, fun no => ?_,
        inv, found⟩
      · rw [rejected] at no
        cases no
      · rw [found] at there
        cases there
        exact fits
      · rw [rejected] at no
        cases no
      · rw [rejected] at no
        cases no
  | @stores id result =>
    refine told.write place rfl (fun _ => rfl) (fun _ => rfl) fun accepted => ?_
    obtain ⟨inv, found⟩ := (told.results _ (List.mem_of_getElem? place) _ rfl).stored
    simp only [answersInTurn, found, Option.all_some, accepted, Bool.not_true, Bool.false_or,
      Bool.and_eq_true, Bool.not_eq_true'] at fits
    exact fits.1
  | saves =>
    refine told.write place rfl (fun _ => rfl) (fun _ => rfl) fun accepted => ?_
    simp only [answersInTurn, accepted, Bool.not_true, Bool.false_or, Bool.not_eq_true'] at fits
    exact fits

def AcceptedKept (db db' : VerifactuDb) : Prop :=
  ∀ id inv, db.find id = some inv → inv.isAccepted = true →
    ∃ inv', db'.find id = some inv' ∧ inv'.aeatStatus = inv.aeatStatus ∧
      (inv.aeatCsv.isSome = true → inv'.aeatCsv.isSome = true)

theorem AcceptedKept.refl (db : VerifactuDb) : AcceptedKept db db :=
  fun _ inv found _ => ⟨inv, found, rfl, id⟩

theorem AcceptedKept.trans {db'' : VerifactuDb} (first : AcceptedKept db db')
    (second : AcceptedKept db' db'') : AcceptedKept db db'' := by
  intro id inv found accepted
  obtain ⟨inv', found', status, csv⟩ := first id inv found accepted
  have accepted' : inv'.isAccepted = true := by
    rw [VerifactuInvoice.isAccepted, status]
    exact accepted
  obtain ⟨inv'', found'', status', csv'⟩ := second id inv' found' accepted'
  exact ⟨inv'', found'', status'.trans status, fun some_ => csv' (csv some_)⟩

theorem acceptedKept_modify
    (row : ∀ inv, db.find id = some inv → inv.isAccepted = true →
      (f inv).aeatStatus = inv.aeatStatus ∧ (inv.aeatCsv.isSome = true → (f inv).aeatCsv.isSome = true)) :
    AcceptedKept db (db.modify id f) := by
  intro k inv found accepted
  exact Table.exists_find_modify found (fun own => row inv own accepted) ⟨rfl, fun some_ => some_⟩

include told

theorem Told.same_status (tells : result.Tells db id) (found : db.find id = some inv)
    (accepted : inv.isAccepted = true) :
    result.status.isAccepted = true ∧ some result.status.stored = inv.aeatStatus := by
  obtain ⟨verdict, held, status⟩ := told.verdicts id inv found accepted
  cases answer : result.status with
  | pending => exact absurd answer tells.answered
  | error =>
    have unaccepted := tells.error inv found answer
    rw [accepted] at unaccepted
    cases unaccepted
  | rejected =>
    have free := tells.rejected inv found answer
    rw [held] at free
    cases free
  | accepted | acceptedWithWarnings =>
    obtain ⟨verdict', held', same⟩ := tells.accepted inv found (by rw [answer]; rfl)
    rw [held] at held'
    cases held'
    rw [status, ← same, answer]
    exact ⟨rfl, rfl⟩

theorem Told.kept (place : running[i]? = some call) (fits : answersInTurn ⟨db, running⟩ call input = true)
    (move : VerifactuMove db call input db' rest) : AcceptedKept db db' := by
  cases move with
  | issues =>
    exact fun id inv found _ => ⟨inv, Table.find_push_of_some found _, rfl, fun some_ => some_⟩
  | posts => exact acceptedKept_modify fun inv _ _ => ⟨rfl, fun some_ => some_⟩
  | @stores id result =>
    refine acceptedKept_modify fun inv found accepted => ?_
    have tells := told.results _ (List.mem_of_getElem? place) _ rfl
    obtain ⟨answer, same⟩ := told.same_status tells found accepted
    simp only [answersInTurn, found, Option.all_some, answer, Bool.not_true, Bool.false_or,
      Bool.and_eq_true, Bool.or_eq_true, decide_eq_true_eq] at fits
    refine ⟨same, fun some_ => fits.2.resolve_right fun none_ => ?_⟩
    rw [none_] at some_
    cases some_
  | @saves id result =>
    refine acceptedKept_modify fun inv found accepted => ?_
    have tells := told.results _ (List.mem_of_getElem? place) _ rfl
    refine ⟨(told.same_status tells found accepted).2, fun some_ => ?_⟩
    rw [VerifactuInvoice.saveStatus, Option.isSome_or, some_, Bool.or_true]
  | reads | sends | resends | knows | confirms => exact .refl db

omit told

theorem enterVerifactu_plain {request : VerifactuRequest} (h : enterVerifactu db request = some call) :
    call.InOrder db ∧ call.result = none ∧ ∀ id result, call ≠ .confirming id result := by
  cases request <;> cases h <;> exact ⟨trivial, rfl, nofun⟩

theorem Told.entered (told : Told ⟨db, running⟩) (plain : call.result = none)
    (other : ∀ id result, call ≠ .confirming id result) : Told ⟨db, running ++ [call]⟩ := by
  refine ⟨told.verdicts, fun call' mem r own => ?_, fun id result mem => ?_,
    fun id inv found stored registered => ?_⟩
  · rcases List.mem_append.mp mem with mem | mem
    · exact told.results call' mem r own
    · rw [List.mem_singleton.mp mem, plain] at own
      cases own
  · rcases List.mem_append.mp mem with mem | mem
    · exact told.confirming id result mem
    · exact absurd (List.mem_singleton.mp mem).symm (other id result)
  · obtain ⟨call', mem, does⟩ := told.rejected id inv found stored registered
    exact ⟨call', List.mem_append_left _ mem, does⟩

theorem sent_in_order {t : State VerifactuDb VerifactuCall}
    (run : Reaches verifactuSystem.step ⟨.empty, []⟩ t) : SentInOrder t.db := by
  have all := System.invariant (P := Chained) (Q := fun db call => call.InOrder db)
    (System.admitted run)
    ⟨fun _ _ found => (by cases found), fun _ _ _ found => (by cases found),
      fun _ _ _ _ found => (by cases found)⟩
    (by simp) (fun _ entered => (enterVerifactu_plain entered).1)
    (fun chained inOrder _ made => by
      have move := nextVerifactu_move made
      refine ⟨move.chained chained inOrder, fun call' same => ?_,
        fun other known => known.keep chained move.follows⟩
      subst same
      exact move.inOrder chained inOrder)
  exact all.1.sent

theorem told_kept {s t : State VerifactuDb VerifactuCall}
    (run : Run verifactuSystem.step
      (System.admitsIn fun s call input => answersInTurn s call input = true) s t) (told : Told s) :
    Told t ∧ AcceptedKept s.db t.db := by
  refine System.invariant_in (J := fun x => Told x ∧ AcceptedKept s.db x.db) run
    ⟨told, .refl s.db⟩ (fun {db running request call} both entered => ?_)
    fun {db running i call input db' rest} both fits place made => ?_
  · have entered : enterVerifactu db request = some call := entered
    have plain := enterVerifactu_plain entered
    exact ⟨both.1.entered plain.2.1 plain.2.2, both.2⟩
  · have move := nextVerifactu_move made
    exact ⟨both.1.step place fits move, both.2.trans (both.1.kept place fits move)⟩

/-- In every run a record is sent after the one before it was stored as accepted or rejected. In every run
whose answers come in turn, the accepted invoices stay so with their CSV, and a registered record that is
stored as rejected is being sent again. -/
theorem aeat_status_faithful (s t : State VerifactuDb VerifactuCall) :
    (Reaches verifactuSystem.step ⟨.empty, []⟩ t → SentInOrder t.db) ∧
    (Run verifactuSystem.step
        (System.admitsIn fun s call input => answersInTurn s call input = true) ⟨.empty, []⟩ s →
      Run verifactuSystem.step
        (System.admitsIn fun s call input => answersInTurn s call input = true) s t →
      AcceptedKept s.db t.db ∧ ∀ id inv, t.db.find id = some inv → inv.aeatStatus = some .rejected →
        inv.registered ≠ none → ∃ call ∈ t.running, call.resends id) := by
  refine ⟨sent_in_order, fun first second => ?_⟩
  have start : Told ⟨.empty, []⟩ :=
    ⟨fun _ _ found => (by cases found), fun _ mem => (by cases mem), fun _ _ mem => (by cases mem),
      fun _ _ found => (by cases found)⟩
  obtain ⟨told, kept⟩ := told_kept second (told_kept first start).1
  exact ⟨kept, told.rejected⟩

def acceptance (csv : Option String) : Option SoapResponse :=
  some ⟨200, none, some "Correcto", csv, none, none⟩

def duplicateNotice : Option SoapResponse :=
  some ⟨200, none, some "Incorrecto", none, some "3000", some "Registro de facturación duplicado."⟩

def exchanging (request : VerifactuRequest) (inputs : List VerifactuInput) :
    List (Action VerifactuRequest VerifactuInput) :=
  .start request :: inputs.map (.advance 0 ·)

/-- The first record is registered without an answer, and found to be so before it is sent again; then the
second one is sent, and the first one is asked for. -/
theorem aeat_status_faithful_found : ∃ s t : State VerifactuDb VerifactuCall,
    (s.db.values.map fun inv => (inv.aeatStatus, inv.aeatCsv)) =
      [(some .accepted, some "A-1"), (some .pending, none)] ∧
    (t.db.values.map fun inv => (inv.aeatStatus, inv.aeatCsv)) =
      [(some .accepted, some "A-1"), (some .acceptedWithWarnings, some "A-2")] ∧
    SentInOrder t.db ∧ AcceptedKept s.db t.db := by
  obtain ⟨s, t, first, second, before, after⟩ := Run.exists_continued verifactuSystem.step
    (System.admitsIn fun s call input => answersInTurn s call input = true) ⟨.empty, []⟩
    (exchanging (.issue 0 false none) [.proceed] ++ exchanging (.issue 0 false (some 0)) [.proceed] ++
      exchanging (.sendToAeat 0) [.proceed, .posted (some .accepted) none, .proceed] ++
      exchanging (.sendToAeat 1) [.proceed] ++
      exchanging (.sendToAeat 0) [.proceed, .answered (acceptance (some "A-1")), .proceed])
    (exchanging (.sendToAeat 1) [.proceed, .posted (some .acceptedWithWarnings)
        (some ⟨200, none, some "AceptadoConErrores", some "A-2", none, none⟩), .proceed] ++
      exchanging (.refreshStatus 0 0) [.proceed, .answered (acceptance none), .proceed])
    (fun s => (s.db.values.map fun inv => (inv.aeatStatus, inv.aeatCsv)) =
      [(some .accepted, some "A-1"), (some .pending, none)])
    (fun t => (t.db.values.map fun inv => (inv.aeatStatus, inv.aeatCsv)) =
      [(some .accepted, some "A-1"), (some .acceptedWithWarnings, some "A-2")]) (by decide +kernel)
  have reached : Reaches verifactuSystem.step ⟨.empty, []⟩ t :=
    (first.trans second).mono fun _ _ _ => trivial
  exact ⟨s, t, of_decide_eq_true before, of_decide_eq_true after, (aeat_status_faithful s t).1 reached,
    ((aeat_status_faithful s t).2 first second).1⟩

def acceptedRecord : List (Action VerifactuRequest VerifactuInput) :=
  exchanging (.issue 0 false none) [.proceed] ++ exchanging (.sendToAeat 0)
    [.proceed, .posted (some .accepted) (acceptance (some "A-1")), .proceed]

/-- A question without an answer makes an error of an acceptance; a record that is sent twice loses its
CSV to the answer about the duplicate; and a duplicate that is not confirmed is stored as rejected. -/
theorem aeat_status_lost :
    (¬∀ s t, Reaches verifactuSystem.step ⟨.empty, []⟩ s → Reaches verifactuSystem.step s t →
      ∀ id inv, s.db.find id = some inv → inv.isAccepted = true →
        ∃ inv', t.db.find id = some inv' ∧ inv'.aeatStatus = inv.aeatStatus) ∧
    (¬∀ s t, Reaches verifactuSystem.step ⟨.empty, []⟩ s → Reaches verifactuSystem.step s t →
      ∀ id inv, s.db.find id = some inv → inv.isAccepted = true → inv.aeatCsv.isSome = true →
        ∃ inv', t.db.find id = some inv' ∧ inv'.aeatCsv.isSome = true) ∧
    ¬∀ t, Reaches verifactuSystem.step ⟨.empty, []⟩ t → t.running = [] → ∀ id inv,
      t.db.find id = some inv → inv.aeatStatus = some .rejected → inv.registered = none := by
  refine ⟨fun always => ?_, fun always => ?_, fun always => ?_⟩
  · obtain ⟨s, t, first, second, before, after⟩ := Run.exists_continued verifactuSystem.step
      (fun _ _ => True) ⟨.empty, []⟩ acceptedRecord
      (exchanging (.refreshStatus 0 0) [.proceed, .answered none, .proceed])
      (fun s => (s.db.find 0).any fun inv => inv.aeatStatus = some .accepted)
      (fun t => (t.db.find 0).any fun inv => inv.aeatStatus = some .error) (by decide +kernel)
    obtain ⟨inv, found, accepted⟩ := (Option.any_eq_true _ _).mp before
    obtain ⟨inv', found', error⟩ := (Option.any_eq_true _ _).mp after
    have accepted := of_decide_eq_true accepted
    obtain ⟨inv'', found'', same⟩ := always s t first second 0 inv found
      (by rw [VerifactuInvoice.isAccepted, accepted]; rfl)
    rw [found'] at found''
    cases found''
    rw [of_decide_eq_true error, accepted] at same
    cases same
  · obtain ⟨s, t, first, second, before, after⟩ := Run.exists_continued verifactuSystem.step
      (fun _ _ => True) ⟨.empty, []⟩
      (exchanging (.issue 0 false none) [.proceed] ++
        [.start (.sendToAeat 0), .start (.sendToAeat 0), .advance 0 .proceed, .advance 1 .proceed,
          .advance 0 (.posted (some .accepted) (acceptance (some "A-1"))), .advance 0 .proceed])
      [.advance 0 (.posted none duplicateNotice), .advance 0 (.answered (acceptance none)),
        .advance 0 .proceed]
      (fun s => (s.db.find 0).any fun inv => inv.aeatStatus = some .accepted && inv.aeatCsv.isSome)
      (fun t => (t.db.find 0).any fun inv => inv.aeatCsv = none) (by decide +kernel)
    obtain ⟨inv, found, accepted⟩ := (Option.any_eq_true _ _).mp before
    obtain ⟨inv', found', erased⟩ := (Option.any_eq_true _ _).mp after
    obtain ⟨accepted, some_⟩ := Bool.and_eq_true_iff.mp accepted
    have accepted := of_decide_eq_true accepted
    obtain ⟨inv'', found'', kept⟩ := always s t first second 0 inv found
      (by rw [VerifactuInvoice.isAccepted, accepted]; rfl) some_
    rw [found'] at found''
    cases found''
    rw [of_decide_eq_true erased] at kept
    cases kept
  · obtain ⟨t, run, rejected⟩ := Run.exists_of_exec verifactuSystem.step (fun _ _ => True) ⟨.empty, []⟩
      (exchanging (.issue 0 false none) [.proceed] ++
        exchanging (.sendToAeat 0) [.proceed, .posted (some .accepted) none, .proceed] ++
        exchanging (.sendToAeat 0) [.proceed, .answered none, .posted none duplicateNotice,
          .answered none, .proceed])
      (fun t => t.running.isEmpty && (t.db.find 0).any fun inv =>
        inv.aeatStatus = some .rejected && inv.registered.isSome) (by decide +kernel)
    obtain ⟨idle, rejected⟩ := Bool.and_eq_true_iff.mp rejected
    obtain ⟨inv, found, rejected⟩ := (Option.any_eq_true _ _).mp rejected
    obtain ⟨rejected, registered⟩ := Bool.and_eq_true_iff.mp rejected
    rw [always t run (List.isEmpty_iff.mp idle) 0 inv found (of_decide_eq_true rejected)] at registered
    cases registered

end StorageOS
