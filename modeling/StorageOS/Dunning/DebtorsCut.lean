import StorageOS.Dunning.AccessCut

/-! Access is cut for the debtors: in the runs where no access is given back against a block that is
under way, and no block is carried out for an invoice settled since it was read. -/

namespace StorageOS

open Transition Processes

def AccessCredential.cutForDebt (c : AccessCredential) : Bool :=
  c.status = .suspended && c.suspendReason.any fun reason => startsWith reason "dunning:"

/-- Some block for an invoice that the customer owes has been carried out, recorded or not yet. -/
def CutDb.pressed (db : CutDb) (customerId : CustomerId) : Bool :=
  db.actions.rows.any fun r =>
    (r.2.cutApplied || r.1 ∈ db.carried) && db.owes customerId r.2.invoiceId

/-- A block is carried out for an invoice still owed, and access is given back to a customer with a
contract and with no block carried out for what is owed. -/
def cutInOrder (db : CutDb) (call : CutCall) (input : CutInput) : Bool :=
  match call with
  | .cutting _ customerId invoiceId => db.owes customerId invoiceId
  | .checkingContracts _ => input.hasContract
  | .lifting customerId (.reactivating _ _) => !db.pressed customerId
  | _ => true

structure CutDb.Exact (db : CutDb) : Prop where
  debtors : ∀ id c u, db.access.credentials.find id = some c → c.customerId = some u →
    c.cutForDebt = true → db.stillBlocked u = true
  cut : ∀ id c u, db.access.credentials.find id = some c → c.customerId = some u →
    db.stillBlocked u = true → c.status ≠ .active

variable {db db' : CutDb} {call : CutCall} {input : CutInput} {rest : Option CutCall}
  {running : List CutCall} {u : CustomerId}

theorem stillBlocked_iff : db.stillBlocked u = true ↔ ∃ k a, db.actions.find k = some a ∧
    a.cutApplied = true ∧ db.owes u a.invoiceId = true := by
  rw [CutDb.stillBlocked, List.any_eq_true]
  constructor
  · rintro ⟨⟨k, a⟩, mem, h⟩
    exact ⟨k, a, Table.find_eq_some.mpr mem, Bool.and_eq_true_iff.mp h⟩
  · rintro ⟨k, a, found, h⟩
    exact ⟨(k, a), Table.find_eq_some.mp found, Bool.and_eq_true_iff.mpr h⟩

theorem pressed_iff : db.pressed u = true ↔ ∃ k a, db.actions.find k = some a ∧
    (a.cutApplied = true ∨ k ∈ db.carried) ∧ db.owes u a.invoiceId = true := by
  rw [CutDb.pressed, List.any_eq_true]
  constructor
  · rintro ⟨⟨k, a⟩, mem, h⟩
    simp only [Bool.and_eq_true, Bool.or_eq_true, decide_eq_true_eq] at h
    exact ⟨k, a, Table.find_eq_some.mpr mem, h⟩
  · rintro ⟨k, a, found, h⟩
    refine ⟨(k, a), Table.find_eq_some.mp found, ?_⟩
    simpa only [Bool.and_eq_true, Bool.or_eq_true, decide_eq_true_eq] using h

theorem pressed_of_stillBlocked (blocked : db.stillBlocked u = true) : db.pressed u = true := by
  obtain ⟨k, a, found, applied, owes⟩ := stillBlocked_iff.mp blocked
  exact pressed_iff.mpr ⟨k, a, found, .inl applied, owes⟩

variable {invoiceId : InvoiceId}

theorem owes_iff : db.owes u invoiceId = true ↔
    ∃ i, db.invoices.find invoiceId = some i ∧ i.customerId = some u ∧ i.status.payable = true := by
  rw [CutDb.owes, Option.any_eq_true]
  simp only [Bool.and_eq_true, decide_eq_true_eq]

/-! ### What a request knows -/

def CutDb.blockOf (db : CutDb) (actionId : DunningActionId) (invoiceId : InvoiceId) : Prop :=
  ∃ a, db.actions.find actionId = some a ∧ a.invoiceId = invoiceId ∧
    a.actionType = .accessBlock ∧ a.supersededAt = none

def CutDb.unowed (db : CutDb) (invoiceId : InvoiceId) : Prop := ∀ u, db.owes u invoiceId = false

def CutCall.Sound (db : CutDb) : CutCall → Prop
  | .loading _ | .settling _ _ | .restoring _ | .checkingContracts _ => True
  | .examining actionId invoiceId => db.blockOf actionId invoiceId
  | .cancelling actionId => ∀ a, db.actions.find actionId = some a → db.unowed a.invoiceId
  | .cutting actionId _ invoiceId => db.blockOf actionId invoiceId
  | .recording actionId true => actionId ∈ db.carried ∧ ∃ invoiceId, db.blockOf actionId invoiceId
  | .recording actionId false => ∃ invoiceId, db.blockOf actionId invoiceId ∧ db.unowed invoiceId
  | .lifting customerId call => call = .resuming (.ofCustomer customerId) (some "dunning:") [] ∨
    ∃ ids, call = .reactivating ids [] ∧ ∀ id ∈ ids, ∀ c, db.access.credentials.find id = some c →
      c.customerId = some customerId

structure CutDb.Follows (db db' : CutDb) : Prop where
  actions : ∀ k a', db'.actions.find k = some a' → ∃ a, db.actions.find k = some a ∧
    a'.invoiceId = a.invoiceId
  blocks : ∀ k i, db.blockOf k i → db'.blockOf k i
  carried : ∀ k ∈ db.carried, k ∈ db'.carried
  owes : ∀ u i, db'.owes u i = true → db.owes u i = true
  customers : ∀ id c', db'.access.credentials.find id = some c' →
    ∃ c, db.access.credentials.find id = some c ∧ c'.customerId = c.customerId

theorem CutDb.Follows.unowed (follows : db.Follows db') (unowed : db.unowed invoiceId) : db'.unowed invoiceId := by
  intro u
  rw [← Bool.not_eq_true]
  intro owes
  have := follows.owes u invoiceId owes
  rw [unowed u] at this
  cases this

theorem CutCall.Sound.follow (sound : call.Sound db) (follows : db.Follows db') :
    call.Sound db' := by
  cases call with
  | examining actionId invoiceId => exact follows.blocks _ _ sound
  | cancelling actionId =>
    intro a' found
    obtain ⟨a, before, same⟩ := follows.actions actionId a' found
    rw [same]
    exact follows.unowed (sound a before)
  | cutting actionId customerId invoiceId => exact follows.blocks _ _ sound
  | recording actionId accessBlocked =>
    cases accessBlocked with
    | true =>
      obtain ⟨carried, invoiceId, block⟩ := sound
      exact ⟨follows.carried _ carried, invoiceId, follows.blocks _ _ block⟩
    | false =>
      obtain ⟨invoiceId, block, unowed⟩ := sound
      exact ⟨invoiceId, follows.blocks _ _ block, follows.unowed unowed⟩
  | lifting customerId call =>
    rcases sound with resuming | ⟨ids, reactivating, own⟩
    · exact .inl resuming
    · refine .inr ⟨ids, reactivating, fun id mem c' found => ?_⟩
      obtain ⟨c, before, same⟩ := follows.customers id c' found
      rw [same]
      exact own id mem c before
  | _ => trivial

/-! ### Moves -/

/-- A restoration under way that will find the credential suspended and give it back. -/
def CutCall.restores (u : CustomerId) (id : CredentialId) : CutCall → Prop
  | .restoring customerId | .checkingContracts customerId => customerId = u
  | .lifting customerId (.reactivating ids _) => customerId = u ∧ id ∈ ids
  | .lifting customerId _ => customerId = u
  | _ => False

def CutCall.records (k : DunningActionId) (call : CutCall) : Prop := call = .recording k true

inductive CutMove (db : CutDb) : CutCall → CutDb → Option CutCall → Prop
  | idle {call : CutCall} {rest : Option CutCall} (unrecorded : ∀ k, ¬call.records k)
      (sound : ∀ r, rest = some r → r.Sound db)
      (hands : ∀ id c u, db.access.credentials.find id = some c → c.customerId = some u →
        c.cutForDebt = true → call.restores u id → db.pressed u = true ∨
          ∃ r, rest = some r ∧ r.restores u id) :
    CutMove db call db rest
  | cancels {k : DunningActionId} {now : Instant} :
    CutMove db (.cancelling k) { db with
      actions := db.actions.modify k fun a =>
        { a with status := .cancelled, executedAt := some now } } none
  | cuts {k : DunningActionId} {u : CustomerId} {invoiceId : InvoiceId} {reason : String}
      {now : Instant} (owes : db.owes u invoiceId = true) :
    CutMove db (.cutting k u invoiceId) { db with
      access := db.access.updateMany
        (fun q => (CredentialTarget.ofCustomer u).selects q && q.2.status = .active)
          (AccessCredential.suspend reason now)
      carried := k :: db.carried } (some (.recording k true))
  | records {k : DunningActionId} {applied : Bool} {now : Instant} :
    CutMove db (.recording k applied) { db with
      actions := db.actions.modify k fun a => { a with
        status := .executed, executedAt := some now, accessBlocked := some applied } } none
  | settles {invoiceId : InvoiceId} {event : SettlingEvent} {i : CutInvoice}
      (found : db.invoices.find invoiceId = some i) :
    CutMove db (.settling invoiceId event) { db with
      invoices := db.invoices.modify invoiceId fun i => { i with status := event.status } }
      (i.customerId.map .restoring)
  | lifts {u : CustomerId} {ids : List CredentialId} (free : db.pressed u = false) :
    CutMove db (.lifting u (.reactivating ids [])) { db with
      access := db.access.updateMany (fun q => q.1 ∈ ids) AccessCredential.resume } none

theorem CutMove.plain (unrecorded : ∀ k, ¬call.records k) (still : ∀ u id, ¬call.restores u id)
    (sound : ∀ r, rest = some r → r.Sound db) : CutMove db call db rest :=
  .idle unrecorded sound fun id _ u _ _ _ own => absurd own (still u id)

def CutDb.suspendedForDebt (db : CutDb) (u : CustomerId) : List CredentialId :=
  db.access.select fun q => (CredentialTarget.ofCustomer u).selects q && q.2.status = .suspended &&
    (some "dunning:").all fun start => q.2.suspendReason.any fun reason => startsWith reason start

variable {id : CredentialId} {f : DunningAction → DunningAction} {i : ℕ}

theorem mem_suspendedForDebt {c : AccessCredential} (found : db.access.credentials.find id = some c) :
    id ∈ db.suspendedForDebt u ↔ c.customerId = some u ∧ c.cutForDebt = true := by
  have reads : ∀ c : AccessCredential, ((CredentialTarget.ofCustomer u).selects (id, c) &&
      c.status = .suspended && (some "dunning:").all fun start =>
        c.suspendReason.any fun reason => startsWith reason start) = true ↔
      c.customerId = some u ∧ c.cutForDebt = true := by
    intro c
    simp [CredentialTarget.selects, AccessCredential.cutForDebt, and_assoc]
  rw [CutDb.suspendedForDebt, AccessDb.select, List.mem_map]
  constructor
  · rintro ⟨⟨k, c'⟩, mem, rfl⟩
    obtain ⟨row, selected⟩ := List.mem_filter.mp mem
    rw [Table.find_eq_some.mpr row] at found
    cases found
    exact (reads c).mp selected
  · intro cut
    exact ⟨(id, c), List.mem_filter.mpr ⟨Table.find_eq_some.mp found, (reads c).mpr cut⟩, rfl⟩

theorem nextCut_move (sound : call.Sound db) (order : cutInOrder db call input = true)
    (fresh : ∀ k a, db.actions.find k = some a → a.status = .scheduled → a.supersededAt = none) :
    CutMove db call (nextCut db call input).1 (nextCut db call input).2 := by
  cases call with
  | loading actionId =>
    have plain : ∀ rest : Option CutCall, (∀ r, rest = some r → r.Sound db) →
        CutMove db (.loading actionId) db rest := fun rest =>
      .plain (fun k h => by cases h) fun u id h => h
    simp only [nextCut]
    split
    · exact plain none fun r same => by cases same
    · rename_i a found
      split
      · rename_i due
        simp only [Bool.and_eq_true, decide_eq_true_eq] at due
        refine plain _ fun r same => ?_
        cases same
        exact ⟨a, found, rfl, due.1, fresh actionId a found due.2⟩
      · exact plain none fun r same => by cases same
  | examining actionId invoiceId =>
    have plain : ∀ rest : Option CutCall, (∀ r, rest = some r → r.Sound db) →
        CutMove db (.examining actionId invoiceId) db rest := fun rest =>
      .plain (fun k h => by cases h) fun u id h => h
    obtain ⟨a, stored, rfl, block⟩ := sound
    have ofAction : db.unowed a.invoiceId → CutCall.Sound db (.cancelling actionId) := by
      intro unowed a' found
      rw [stored] at found
      cases found
      exact unowed
    simp only [nextCut]
    split
    · rename_i missing
      refine plain _ fun r same => ?_
      cases same
      exact ofAction fun u => by simp [CutDb.owes, missing]
    · rename_i i found
      split
      · rename_i settled
        rw [Bool.not_eq_true'] at settled
        refine plain _ fun r same => ?_
        cases same
        exact ofAction fun u => by simp [CutDb.owes, found, settled]
      · split
        · exact plain none fun r same => by cases same
        · split
          · rename_i nobody
            refine plain _ fun r same => ?_
            cases same
            exact ⟨a.invoiceId, ⟨a, stored, rfl, block⟩, fun u => by
              simp [CutDb.owes, found, nobody]⟩
          · refine plain _ fun r same => ?_
            cases same
            exact ⟨a, stored, rfl, block⟩
  | cancelling actionId => exact .cancels
  | cutting actionId customerId invoiceId => exact .cuts order
  | recording actionId accessBlocked => exact .records
  | settling invoiceId event =>
    have plain : CutMove db (.settling invoiceId event) db none :=
      .plain (fun k h => by cases h) (fun u id h => h) fun r same => by cases same
    simp only [nextCut]
    split
    · exact plain
    · rename_i i found
      split
      · exact plain
      · exact .settles found
  | restoring customerId =>
    simp only [nextCut]
    split
    · rename_i blocked
      refine .idle (fun k h => by cases h) (fun r same => by cases same)
        fun id c u _ _ _ own => .inl ?_
      obtain rfl : customerId = u := own
      exact pressed_of_stillBlocked blocked
    · refine .idle (fun k h => by cases h) (fun r same => ?_) fun id c u _ _ _ own =>
        .inr ⟨_, rfl, own⟩
      cases same
      trivial
  | checkingContracts customerId =>
    have live : input.hasContract = true := order
    simp only [nextCut, live, Bool.not_true, Bool.false_eq_true, if_false]
    refine .idle (fun k h => by cases h) (fun r same => ?_) fun id c u _ _ _ own =>
      .inr ⟨_, rfl, own⟩
    cases same
    exact .inl rfl
  | lifting customerId call =>
    rcases sound with rfl | ⟨ids, rfl, own⟩
    · cases collected : db.suspendedForDebt customerId with
      | nil =>
        have same : nextAccess db.access (.resuming (.ofCustomer customerId) (some "dunning:") [])
            ⟨input.now, true⟩ = (db.access, none) := by
          simp only [nextAccess]
          rw [CutDb.suspendedForDebt] at collected
          rw [collected]
        rw [nextCut, same]
        refine .idle (fun k h => by cases h) (fun r same => by cases same)
          fun id c u found own cut ours => ?_
        obtain rfl : customerId = u := ours
        have mem := (mem_suspendedForDebt found).mpr ⟨own, cut⟩
        rw [collected] at mem
        cases mem
      | cons first ids =>
        have same : nextAccess db.access (.resuming (.ofCustomer customerId) (some "dunning:") [])
            ⟨input.now, true⟩ = (db.access, some (.reactivating (first :: ids) [])) := by
          simp only [nextAccess]
          rw [CutDb.suspendedForDebt] at collected
          rw [collected]
        rw [nextCut, same, ← collected]
        refine .idle (fun k h => by cases h) (fun r same => ?_)
          fun id c u found own cut ours => .inr ⟨_, rfl, ours, ?_⟩
        · cases same
          exact .inr ⟨_, rfl, fun id mem c found => ((mem_suspendedForDebt found).mp mem).1⟩
        · obtain rfl : customerId = u := ours
          exact (mem_suspendedForDebt found).mpr ⟨own, cut⟩
    · exact .lifts (by simpa [cutInOrder] using order)

theorem owes_single {v : CustomerId} (owes : db.owes u invoiceId = true) (owes' : db.owes v invoiceId = true) :
    u = v := by
  obtain ⟨i, found, own, -⟩ := owes_iff.mp owes
  obtain ⟨j, found', own', -⟩ := owes_iff.mp owes'
  rw [found] at found'
  cases found'
  rw [own] at own'
  exact Option.some.inj own'

theorem owes_settled {invoiceId other : InvoiceId} (event : SettlingEvent) :
    ({ db with invoices := db.invoices.modify invoiceId fun i =>
      { i with status := event.status } } : CutDb).owes u other =
        (decide (other ≠ invoiceId) && db.owes u other) := by
  rw [CutDb.owes, Table.find_modify]
  by_cases same : other = invoiceId
  · subst same
    cases db.invoices.find other with
    | none => simp
    | some i => cases event <;> simp [SettlingEvent.status, InvoiceStatus.payable]
  · simp [same, CutDb.owes]

theorem blockOf_modify {k j : DunningActionId}
    (same : ∀ a, (f a).invoiceId = a.invoiceId ∧ (f a).actionType = a.actionType ∧
      (f a).supersededAt = a.supersededAt) (block : db.blockOf j invoiceId) :
    ({ db with actions := db.actions.modify k f } : CutDb).blockOf j invoiceId := by
  obtain ⟨a, found, invoice, type, current⟩ := block
  obtain ⟨sameInvoice, sameType, sameCycle⟩ := same a
  exact Table.exists_find_modify found
    (fun _ => ⟨sameInvoice.trans invoice, sameType.trans type, sameCycle.trans current⟩)
    ⟨invoice, type, current⟩

theorem CutDb.Follows.of_modify {k : DunningActionId}
    (same : ∀ a, (f a).invoiceId = a.invoiceId ∧ (f a).actionType = a.actionType ∧
      (f a).supersededAt = a.supersededAt) :
    db.Follows { db with actions := db.actions.modify k f } := by
  refine ⟨fun j a' found => ?_, fun j i block => blockOf_modify same block, fun _ mem => mem,
    fun _ _ owes => owes, fun _ c found => ⟨c, found, rfl⟩⟩
  rcases Table.find_modify_cases found with ⟨-, before⟩ | ⟨rfl, a, before, rfl⟩
  · exact ⟨a', before, rfl⟩
  · exact ⟨a, before, (same a).1⟩

theorem customers_updateMany {access : AccessDb} {q : CredentialId × AccessCredential → Bool}
    {f : AccessCredential → AccessCredential} (same : ∀ c, (f c).customerId = c.customerId) {c' : AccessCredential}
    (found : (access.updateMany q f).credentials.find id = some c') :
    ∃ c, access.credentials.find id = some c ∧ c'.customerId = c.customerId := by
  rw [AccessDb.updateMany, Table.find_updateMany] at found
  obtain ⟨c, before, rfl⟩ := Option.map_eq_some_iff.mp found
  refine ⟨c, before, ?_⟩
  split
  · exact same c
  · rfl

theorem CutMove.follows (move : CutMove db call db' rest) : db.Follows db' := by
  cases move with
  | idle => exact ⟨fun _ a found => ⟨a, found, rfl⟩, fun _ _ block => block, fun _ mem => mem,
      fun _ _ owes => owes, fun _ c found => ⟨c, found, rfl⟩⟩
  | cancels => exact .of_modify fun _ => ⟨rfl, rfl, rfl⟩
  | cuts => exact ⟨fun _ a found => ⟨a, found, rfl⟩, fun _ _ block => block,
      fun _ mem => List.mem_cons_of_mem _ mem, fun _ _ owes => owes,
      fun _ _ found => customers_updateMany (f := AccessCredential.suspend _ _) (fun _ => rfl) found⟩
  | records => exact .of_modify fun _ => ⟨rfl, rfl, rfl⟩
  | @settles invoiceId event i found =>
    refine ⟨fun _ a found => ⟨a, found, rfl⟩, fun _ _ block => block, fun _ mem => mem,
      fun u other owes => ?_, fun _ c found => ⟨c, found, rfl⟩⟩
    rw [owes_settled] at owes
    exact (Bool.and_eq_true_iff.mp owes).2
  | lifts => exact ⟨fun _ a found => ⟨a, found, rfl⟩, fun _ _ block => block, fun _ mem => mem,
      fun _ _ owes => owes,
      fun _ _ found => customers_updateMany (f := AccessCredential.resume) (fun _ => rfl) found⟩

theorem CutMove.pressed_before (sound : call.Sound db) (move : CutMove db call db' rest)
    (pressed : db'.pressed u = true) :
    db.pressed u = true ∨ ∃ k invoiceId, call = .cutting k u invoiceId := by
  obtain ⟨j, a', found, why, owes⟩ := pressed_iff.mp pressed
  have before := move.follows.owes u a'.invoiceId owes
  cases move with
  | idle | lifts | settles => exact .inl (pressed_iff.mpr ⟨j, a', found, why, before⟩)
  | @cancels k now =>
    rcases Table.find_modify_cases found with ⟨-, same⟩ | ⟨rfl, a, same, rfl⟩
    · exact .inl (pressed_iff.mpr ⟨j, a', same, why, before⟩)
    · have unowed := sound a same u
      rw [before] at unowed
      cases unowed
  | @cuts k v invoiceId reason now owed =>
    rcases why with applied | carried
    · exact .inl (pressed_iff.mpr ⟨j, a', found, .inl applied, before⟩)
    · rcases List.mem_cons.mp carried with rfl | carried
      · obtain ⟨a, stored, rfl, -⟩ := sound
        cases stored.symm.trans found
        cases owes_single before owed
        exact .inr ⟨j, _, rfl⟩
      · exact .inl (pressed_iff.mpr ⟨j, a', found, .inr carried, before⟩)
  | @records k applied now =>
    rcases Table.find_modify_cases found with ⟨-, same⟩ | ⟨rfl, a, same, rfl⟩
    · exact .inl (pressed_iff.mpr ⟨j, a', same, why, before⟩)
    · refine .inl (pressed_iff.mpr ⟨j, a, same, .inr ?_, before⟩)
      rcases why with done | carried
      · cases applied with
        | true => exact sound.1
        | false => simp [DunningAction.cutApplied] at done
      · exact carried

theorem CutMove.pressed_after (sound : call.Sound db) (move : CutMove db call db' rest)
    (pressed : db.pressed u = true) :
    db'.pressed u = true ∨ rest = some (.restoring u) := by
  obtain ⟨j, a, found, why, owes⟩ := pressed_iff.mp pressed
  cases move with
  | idle | lifts => exact .inl pressed
  | @cancels k now =>
    by_cases same : j = k
    · subst same
      have unowed := sound a found u
      rw [owes] at unowed
      cases unowed
    · exact .inl (pressed_iff.mpr ⟨j, a, (Table.find_modify_ne _ same _).trans found, why, owes⟩)
  | cuts => exact .inl (pressed_iff.mpr ⟨j, a, found, why.imp_right (List.mem_cons_of_mem _), owes⟩)
  | @records k applied now =>
    by_cases same : j = k
    · subst same
      cases applied with
      | true =>
        exact .inl (pressed_iff.mpr ⟨j, { a with
          status := .executed, executedAt := some now, accessBlocked := some true },
          by simp [found], .inr sound.1, owes⟩)
      | false =>
        obtain ⟨invoiceId, ⟨a', found', rfl, -⟩, unowed⟩ := sound
        cases found.symm.trans found'
        have := unowed u
        rw [owes] at this
        cases this
    · exact .inl (pressed_iff.mpr ⟨j, a, (Table.find_modify_ne _ same _).trans found, why, owes⟩)
  | @settles invoiceId event i stored =>
    by_cases same : a.invoiceId = invoiceId
    · subst same
      obtain ⟨i', found', own, -⟩ := owes_iff.mp owes
      cases stored.symm.trans found'
      exact .inr (by rw [own]; rfl)
    · refine .inl (pressed_iff.mpr ⟨j, a, found, why, ?_⟩)
      rw [owes_settled, owes]
      simp [same]

/-! ### Runs -/

/-- A scheduled action is of the cycle under way, and whoever is pressed has no access. -/
structure CutDb.Pressing (db : CutDb) : Prop where
  fresh : ∀ k a, db.actions.find k = some a → a.status = .scheduled → a.supersededAt = none
  cut : ∀ id c u, db.access.credentials.find id = some c → c.customerId = some u →
    db.pressed u = true → c.status ≠ .active

variable (move : CutMove db call db' rest)
include move

theorem CutMove.fresh (fresh : ∀ k a, db.actions.find k = some a → a.status = .scheduled → a.supersededAt = none)
    (k : DunningActionId) (a : DunningAction) (found : db'.actions.find k = some a)
    (scheduled : a.status = .scheduled) : a.supersededAt = none := by
  cases move with
  | idle | cuts | settles | lifts => exact fresh k a found scheduled
  | cancels =>
    rcases Table.find_modify_cases found with ⟨-, same⟩ | ⟨-, a, -, rfl⟩
    · exact fresh k a same scheduled
    · cases scheduled
  | records =>
    rcases Table.find_modify_cases found with ⟨-, same⟩ | ⟨-, a, -, rfl⟩
    · exact fresh k a same scheduled
    · cases scheduled

variable (sound : call.Sound db)
include sound

theorem CutMove.cut
    (cut : ∀ id c u, db.access.credentials.find id = some c → c.customerId = some u →
      db.pressed u = true → c.status ≠ .active) (id : CredentialId) (c' : AccessCredential) (u : CustomerId)
    (found : db'.access.credentials.find id = some c') (own : c'.customerId = some u)
    (pressed : db'.pressed u = true) : c'.status ≠ .active := by
  have before := move.pressed_before sound pressed
  cases move with
  | idle => exact cut id c' u found own pressed
  | cancels | records | settles =>
    rcases before with before | ⟨k, invoiceId, same⟩
    · exact cut id c' u found own before
    · cases same
  | @cuts k v invoiceId reason now owes =>
    dsimp only at found
    rw [AccessDb.updateMany, Table.find_updateMany] at found
    obtain ⟨c, stored, rfl⟩ := Option.map_eq_some_iff.mp found
    split at own
    · rename_i selected
      rw [if_pos selected]
      exact fun h => by cases h
    · rename_i selected
      rw [if_neg selected]
      rcases before with before | ⟨_, _, same⟩
      · exact cut id c u stored own before
      · cases same
        intro active
        simp [CredentialTarget.selects, own, active] at selected
  | @lifts v ids free =>
    dsimp only at found
    rw [AccessDb.updateMany, Table.find_updateMany] at found
    obtain ⟨c, stored, rfl⟩ := Option.map_eq_some_iff.mp found
    rcases before with before | ⟨_, _, same⟩
    · split at own
      · rename_i selected
        rcases sound with same | ⟨_, same, owned⟩
        · cases same
        · cases same
          have : c.customerId = some v := owned id (of_decide_eq_true selected) c stored
          cases this.symm.trans own
          rw [free] at before
          cases before
      · rename_i selected
        rw [if_neg selected]
        exact cut id c u stored own before
    · cases same

theorem CutMove.rest_sound (r : CutCall) (left : rest = some r) : r.Sound db' := by
  cases move with
  | idle _ sound => exact sound r left
  | cancels | records | lifts => cases left
  | cuts =>
    cases left
    exact ⟨List.mem_cons_self .., _, sound⟩
  | @settles invoiceId event i =>
    obtain ⟨u, -, rfl⟩ := Option.map_eq_some_iff.mp left
    trivial

/-- A block carried out for what is owed has been recorded, or is about to be. -/
def CutRecorded (s : State CutDb CutCall) : Prop :=
  ∀ k ∈ s.db.carried, ∀ a, s.db.actions.find k = some a → ∀ u, s.db.owes u a.invoiceId = true →
    a.cutApplied = true ∨ ∃ r ∈ s.running, r.records k

theorem CutMove.recorded (before : CutRecorded ⟨db, running⟩) (place : running[i]? = some call) :
    CutRecorded ⟨db', resume running i rest⟩ := by
  intro k carried a' found u owed
  have owes := move.follows.owes u a'.invoiceId owed
  have stays : k ∈ db.carried → db.actions.find k = some a' → ¬call.records k →
      a'.cutApplied = true ∨ ∃ r ∈ resume running i rest, r.records k := by
    intro mem same other
    refine (before k mem a' same u owes).imp_right fun left => ?_
    exact exists_resume place left fun records => absurd records other
  cases move with
  | idle unrecorded => exact stays carried found (unrecorded k)
  | @cancels j now =>
    rcases Table.find_modify_cases found with ⟨-, same⟩ | ⟨rfl, a, same, rfl⟩
    · exact stays carried same fun h => by cases h
    · have unowed := sound a same u
      rw [owes] at unowed
      cases unowed
  | cuts =>
    rcases List.mem_cons.mp carried with rfl | carried
    · exact .inr ⟨_, mem_resume_self place _, rfl⟩
    · exact stays carried found fun h => by cases h
  | @records j applied now =>
    rcases Table.find_modify_cases found with ⟨other, same⟩ | ⟨rfl, a, same, rfl⟩
    · refine stays carried same fun h => ?_
      cases h
      exact other rfl
    · cases applied with
      | true =>
        obtain ⟨-, invoiceId, a', stored, -, block, current⟩ := sound
        cases same.symm.trans stored
        exact .inl (by simp [DunningAction.cutApplied, block, current])
      | false =>
        obtain ⟨invoiceId, ⟨a', stored, rfl, -⟩, unowed⟩ := sound
        cases same.symm.trans stored
        have := unowed u
        rw [owes] at this
        cases this
  | settles => exact stays carried found fun h => by cases h
  | lifts => exact stays carried found fun h => by cases h

/-- Whoever has no access for a debt is pressed, or is about to get it back. -/
def CutRestored (s : State CutDb CutCall) : Prop :=
  ∀ id c u, s.db.access.credentials.find id = some c → c.customerId = some u →
    c.cutForDebt = true → s.db.pressed u = true ∨ ∃ r ∈ s.running, r.restores u id

theorem CutMove.restored (before : CutRestored ⟨db, running⟩) (place : running[i]? = some call) :
    CutRestored ⟨db', resume running i rest⟩ := by
  intro id c' u found own cut
  have stays : db.access.credentials.find id = some c' → ¬call.restores u id →
      db'.pressed u = true ∨ ∃ r ∈ resume running i rest, r.restores u id := by
    intro same other
    rcases before id c' u same own cut with pressed | left
    · refine (move.pressed_after sound pressed).imp_right fun restoring => ?_
      exact ⟨.restoring u, by rw [restoring]; exact mem_resume_self place _, rfl⟩
    · exact .inr (exists_resume place left fun restores => absurd restores other)
  cases move with
  | idle unrecorded sound hands =>
    rcases before id c' u found own cut with pressed | left
    · exact .inl pressed
    · by_cases pressed : db.pressed u = true
      · exact .inl pressed
      · exact .inr (exists_resume place left fun restores =>
          (hands id c' u found own cut restores).resolve_left pressed)
  | cancels | records | settles => exact stays found fun h => h
  | @cuts k v invoiceId reason now owes =>
    have stored := found
    dsimp only at stored
    rw [AccessDb.updateMany, Table.find_updateMany] at stored
    obtain ⟨c, held, rfl⟩ := Option.map_eq_some_iff.mp stored
    split at own
    · rename_i selected
      obtain ⟨a, block, rfl, -⟩ := sound
      have : c.customerId = some v := by
        simpa [CredentialTarget.selects] using (Bool.and_eq_true_iff.mp selected).1
      cases this.symm.trans own
      exact .inl (pressed_iff.mpr ⟨k, a, block, .inr (List.mem_cons_self ..), owes⟩)
    · rename_i selected
      rw [if_neg selected] at stays
      exact stays held fun h => h
  | @lifts v ids free =>
    have stored := found
    dsimp only at stored
    rw [AccessDb.updateMany, Table.find_updateMany] at stored
    obtain ⟨c, held, rfl⟩ := Option.map_eq_some_iff.mp stored
    split at cut
    · cases cut
    · rename_i other
      rw [if_neg other] at stays
      exact stays held fun h => other (decide_eq_true h.2)

omit sound move

/-- No request is under way, nor has any block been left half carried out. -/
structure CutQuiet (s : State CutDb CutCall) : Prop where
  running : s.running = []
  carried : s.db.carried = []
  fresh : ∀ k a, s.db.actions.find k = some a → a.status = .scheduled → a.supersededAt = none
  exact : s.db.Exact

theorem CutQuiet.pressed {s : State CutDb CutCall} (quiet : CutQuiet s) :
    s.db.pressed u = s.db.stillBlocked u := by
  simp [CutDb.pressed, CutDb.stillBlocked, quiet.carried]

def debtorPin : AccessCredential where
  customerId := some 1
  status := .active
  allowedFacilityIds := []
  allowedUnitIds := []
  extra := false
  maxUses := none
  usesCount := 0
  suspendReason := none
  validFrom := none
  expiresAt := none
  suspendedAt := none
  revokedAt := none
  lastUsedAt := none

def scheduledBlock (invoiceId : InvoiceId) : DunningAction where
  invoiceId := invoiceId
  actionType := .accessBlock
  status := .scheduled
  scheduledFor := 0
  executedAt := none
  supersededAt := none
  accessBlocked := none

/-- A customer with two overdue invoices and the access block of each to be carried out. -/
def twoDebts : State CutDb CutCall where
  db :=
    { access := ⟨Table.empty.push debtorPin, [], [], []⟩
      invoices := (Table.empty.push ⟨some 1, .overdue⟩).push ⟨some 1, .overdue⟩
      actions := (Table.empty.push (scheduledBlock 0)).push (scheduledBlock 1)
      carried := [] }
  running := []

theorem twoDebts_quiet : CutQuiet twoDebts where
  running := rfl
  carried := rfl
  fresh k a found _ := by
    rcases List.mem_cons.mp (Table.find_eq_some.mp found) with same | mem
    · cases same
      rfl
    · cases List.mem_singleton.mp mem
      rfl
  exact := by
    have free : twoDebts.db.stillBlocked = fun _ => false := by
      funext u
      rfl
    constructor
    · intro id c u found own suspended
      cases List.mem_singleton.mp (Table.find_eq_some.mp found)
      cases suspended
    · intro id c u found own blocked
      rw [free] at blocked
      cases blocked

def blockTwice : List (Action CutRequest CutInput) :=
  [.start (.executeAction 0), .advance 0 ⟨1, false, true⟩, .advance 0 ⟨1, false, true⟩,
    .advance 0 ⟨1, false, true⟩, .advance 0 ⟨1, false, true⟩,
    .start (.executeAction 1), .advance 0 ⟨1, false, true⟩, .advance 0 ⟨1, false, true⟩,
    .advance 0 ⟨1, false, true⟩, .advance 0 ⟨1, false, true⟩]

end StorageOS
