import StorageOS.Dunning.Actions

/-! Dunning under any interleaving with payments, cancellations, rectifications, refunds and restarts:
it claims only what is owed and executes each action once, in the runs where its writes find what
their requests had read. -/

namespace StorageOS

open Transition Processes

/-- The write of a request finds what the request had read: the invoices it marks are still to be paid, the action it
carries out has not been carried out, and the action it records or cancels is still scheduled. -/
def dunningCurrent (db : DunningDb) : DunningCall → Bool
  | .marking ids => ids.all fun id => db.unpaid id
  | .acting actionId _ => actionId ∉ db.acted
  | .cancelling actionId => (db.actions.find actionId).all fun a => a.status = .scheduled
  | .recording actionId _ => (db.actions.find actionId).all fun a =>
    a.status = .scheduled && a.supersededAt.isNone && db.unpaid a.invoiceId
  | _ => true

def ActiveUnique (actions : Table DunningActionId DunningAction) : Prop :=
  ∀ j k a b, actions.find j = some a → actions.find k = some b → a.active = true →
    b.active = true → a.invoiceId = b.invoiceId → a.actionType = b.actionType → j = k

/-- What dunning has done: it marked as overdue what was owed, and executed each action once, of the
cycle under way and of invoices still to be paid. -/
structure DunningDb.NeverLate (db : DunningDb) : Prop where
  marked : ∀ m ∈ db.marked, m.2.payable = true
  acted : db.acted.Nodup
  once : (db.executions.map DunningExecution.actionId).Nodup
  cycle : ∀ j k a b, db.actions.find j = some a → db.actions.find k = some b →
    a.status = .executed → b.status = .executed → a.supersededAt = none → b.supersededAt = none →
    a.invoiceId = b.invoiceId → a.actionType = b.actionType → j = k
  current : ∀ e ∈ db.executions, e.superseded = false ∧ e.invoice.any InvoiceStatus.payable = true

structure DunningDb.Sound (db : DunningDb) : Prop where
  marked : ∀ m ∈ db.marked, m.2.payable = true
  acted : db.acted.Nodup
  once : (db.executions.map DunningExecution.actionId).Nodup
  unique : ActiveUnique db.actions
  executed : ∀ e ∈ db.executions, ∃ a, db.actions.find e.actionId = some a ∧ a.status = .executed
  current : ∀ e ∈ db.executions, e.superseded = false ∧ e.invoice.any InvoiceStatus.payable = true

theorem DunningDb.Sound.neverLate {db : DunningDb} (sound : db.Sound) : db.NeverLate where
  marked := sound.marked
  acted := sound.acted
  once := sound.once
  cycle := by
    intro j k a b found found' executed executed' kept kept'
    refine sound.unique j k a b found found' ?_ ?_
    · simp [DunningAction.active, executed, kept]
    · simp [DunningAction.active, executed', kept']
  current := sound.current

/-! ### Writes on the actions -/

/-- A change of actions that makes none active and leaves the executed ones executed. -/
structure ActionsKept (actions actions' : Table DunningActionId DunningAction) : Prop where
  active : ∀ k a', actions'.find k = some a' → a'.active = true → ∃ a, actions.find k = some a ∧
    a.active = true ∧ a'.invoiceId = a.invoiceId ∧ a'.actionType = a.actionType
  executed : ∀ k a, actions.find k = some a → a.status = .executed →
    ∃ a', actions'.find k = some a' ∧ a'.status = .executed

variable {actions actions' actions'' : Table DunningActionId DunningAction} {db : DunningDb}

theorem ActionsKept.refl (actions : Table DunningActionId DunningAction) :
    ActionsKept actions actions :=
  ⟨fun _ a found active => ⟨a, found, active, rfl, rfl⟩, fun _ a found done => ⟨a, found, done⟩⟩

theorem ActionsKept.trans (first : ActionsKept actions actions')
    (second : ActionsKept actions' actions'') : ActionsKept actions actions'' := by
  constructor
  · intro k a'' found active
    obtain ⟨a', found, active, invoice', type'⟩ := second.active k a'' found active
    obtain ⟨a, found, active, invoice, type⟩ := first.active k a' found active
    exact ⟨a, found, active, invoice'.trans invoice, type'.trans type⟩
  · intro k a found done
    obtain ⟨a', found, done⟩ := first.executed k a found done
    exact second.executed k a' found done

theorem ActionsKept.unique (kept : ActionsKept actions actions') (unique : ActiveUnique actions) :
    ActiveUnique actions' := by
  intro j k a b found found' active active' invoice type
  obtain ⟨a₀, found, active, invoice₁, type₁⟩ := kept.active j a found active
  obtain ⟨b₀, found', active', invoice₂, type₂⟩ := kept.active k b found' active'
  exact unique j k a₀ b₀ found found' active active'
    (invoice₁.symm.trans (invoice.trans invoice₂)) (type₁.symm.trans (type.trans type₂))

theorem ActionsKept.updateMany {p : DunningActionId × DunningAction → Bool}
    {f : DunningAction → DunningAction}
    (same : ∀ a, (f a).invoiceId = a.invoiceId ∧ (f a).actionType = a.actionType)
    (fewer : ∀ a, (f a).active = true → a.active = true)
    (spares : ∀ k a, p (k, a) = true → a.status = .executed → (f a).status = .executed) :
    ActionsKept actions (actions.updateMany p f) := by
  constructor
  · intro k a' found active
    rw [Table.find_updateMany] at found
    obtain ⟨a, before, rfl⟩ := Option.map_eq_some_iff.mp found
    refine ⟨a, before, ?_⟩
    split at active
    · rename_i selected
      rw [if_pos selected]
      exact ⟨fewer a active, same a⟩
    · rename_i unselected
      rw [if_neg unselected]
      exact ⟨active, rfl, rfl⟩
  · intro k a found done
    refine ⟨if p (k, a) then f a else a, by rw [Table.find_updateMany, found]; rfl, ?_⟩
    split
    · rename_i selected
      exact spares k a selected done
    · exact done

variable {k : DunningActionId} {a : DunningAction}

theorem not_hasActive {invoiceId : InvoiceId} {type : DunningActionType} (free : db.hasActive invoiceId type = false)
    (found : db.actions.find k = some a) (active : a.active = true) (invoice : a.invoiceId = invoiceId) :
    a.actionType ≠ type := by
  rintro rfl
  rw [DunningDb.hasActive, List.any_eq_false] at free
  have := free (k, a) (Table.find_eq_some.mp found)
  simp [invoice, active] at this

theorem ActiveUnique.createAction (unique : ActiveUnique db.actions) (invoiceId : InvoiceId)
    (type : DunningActionType) (scheduledFor : Instant) :
    ActiveUnique (db.createAction invoiceId type scheduledFor).actions := by
  unfold DunningDb.createAction
  split
  · exact unique
  · rename_i free
    rw [Bool.not_eq_true] at free
    intro j k a b found found' active active' invoice sameType
    simp only [Table.find_push] at found found'
    split at found <;> split at found'
    · rename_i hj hk
      rw [hj, hk]
    · cases found
      exact absurd sameType.symm (not_hasActive free found' active' invoice.symm)
    · cases found'
      exact absurd sameType (not_hasActive free found active invoice)
    · exact unique j k a b found found' active active' invoice sameType

theorem createAction_find (found : db.actions.find k = some a) (invoiceId : InvoiceId) (type : DunningActionType)
    (scheduledFor : Instant) :
    (db.createAction invoiceId type scheduledFor).actions.find k = some a := by
  unfold DunningDb.createAction
  split
  · exact found
  · exact Table.find_push_of_some found _

/-! ### Steps -/

theorem DunningDb.Sound.keep {db' : DunningDb} (sound : db.Sound) (marked : db'.marked = db.marked)
    (acted : db'.acted = db.acted) (executions : db'.executions = db.executions) (kept : ActionsKept db.actions db'.actions) :
    db'.Sound := by
  refine ⟨by rw [marked]; exact sound.marked, by rw [acted]; exact sound.acted,
    by rw [executions]; exact sound.once, kept.unique sound.unique, ?_, by rw [executions]; exact sound.current⟩
  rw [executions]
  intro e mem
  obtain ⟨a, found, done⟩ := sound.executed e mem
  exact kept.executed e.actionId a found done

theorem DunningDb.Sound.createAction (sound : db.Sound) (invoiceId : InvoiceId)
    (type : DunningActionType) (scheduledFor : Instant) :
    (db.createAction invoiceId type scheduledFor).Sound := by
  have same : (db.createAction invoiceId type scheduledFor).marked = db.marked ∧
      (db.createAction invoiceId type scheduledFor).acted = db.acted ∧
      (db.createAction invoiceId type scheduledFor).executions = db.executions := by
    unfold DunningDb.createAction
    split <;> exact ⟨rfl, rfl, rfl⟩
  obtain ⟨marked, acted, executions⟩ := same
  refine ⟨by rw [marked]; exact sound.marked, by rw [acted]; exact sound.acted,
    by rw [executions]; exact sound.once, sound.unique.createAction invoiceId type scheduledFor, ?_,
    by rw [executions]; exact sound.current⟩
  rw [executions]
  intro e mem
  obtain ⟨a, found, done⟩ := sound.executed e mem
  exact ⟨a, createAction_find found invoiceId type scheduledFor, done⟩

theorem giveUpCycle_kept (invoiceId : InvoiceId) (now : Instant) :
    ActionsKept db.actions (db.giveUpCycle invoiceId now).actions := by
  unfold DunningDb.giveUpCycle
  dsimp only
  refine ActionsKept.trans (ActionsKept.updateMany ?_ ?_ ?_) (ActionsKept.updateMany ?_ ?_ ?_)
  · exact fun _ => ⟨rfl, rfl⟩
  · exact fun _ active => by cases active
  · intro k a selected done
    simp [done] at selected
  · exact fun _ => ⟨rfl, rfl⟩
  · intro a active
    simp [DunningAction.active] at active
  · exact fun _ _ _ done => done

/-- A restart gives up the actions of an invoice and creates those of its new calendar. -/
theorem DunningDb.Sound.renewCycle (sound : db.Sound) (invoiceId : InvoiceId)
    (calendar : List DunningStep) (now : Instant) : (db.renewCycle invoiceId calendar now).Sound := by
  have creates : ∀ (steps : List DunningStep) (db : DunningDb), db.Sound →
      (steps.foldl (fun db s => db.createAction invoiceId s.type (now + s.daysAfter * dayMs))
        db).Sound := by
    intro steps
    induction steps with
    | nil => exact fun _ sound => sound
    | cons s rest ih => exact fun db sound => ih _ (sound.createAction invoiceId s.type _)
  refine creates calendar _ (sound.keep rfl rfl rfl (giveUpCycle_kept invoiceId now))

/-- The actions that wait for a date put off are cancelled; no change of an invoice executes any. -/
theorem DunningDb.Sound.changeInvoice (sound : db.Sound) (id : InvoiceId) (event : InvoiceEvent) :
    (db.changeInvoice id event).Sound := by
  unfold DunningDb.changeInvoice
  split
  · exact sound
  · cases event with
    | postponed dueDate =>
      refine sound.keep rfl rfl rfl ?_
      dsimp only
      refine ActionsKept.updateMany ?_ ?_ ?_
      · exact fun _ => ⟨rfl, rfl⟩
      · exact fun _ active => by cases active
      · intro k a selected done
        simp [done] at selected
    | _ =>
      exact sound.keep rfl rfl rfl (.refl _)

theorem DunningDb.Sound.markOverdue (sound : db.Sound) {ids : List InvoiceId}
    (unpaid : ids.all (fun id => db.unpaid id) = true) : (db.markOverdue ids).Sound := by
  refine ⟨?_, sound.acted, sound.once, sound.unique, sound.executed, sound.current⟩
  intro m mem
  rcases List.mem_append.mp mem with mem | mem
  · obtain ⟨id, listed, found⟩ := List.mem_filterMap.mp mem
    obtain ⟨status, stored, rfl⟩ := Option.map_eq_some_iff.mp found
    have owed := List.all_eq_true.mp unpaid id listed
    rw [DunningDb.unpaid, stored] at owed
    exact owed
  · exact sound.marked m mem

theorem DunningDb.Sound.record (sound : db.Sound) {actionId : DunningActionId}
    (accessBlocked : Option Bool) (now : Instant)
    (current : (db.actions.find actionId).all (fun a => a.status = .scheduled &&
      a.supersededAt.isNone && db.unpaid a.invoiceId) = true) :
    (db.record actionId accessBlocked now).Sound := by
  unfold DunningDb.record
  cases found : db.actions.find actionId with
  | none => exact sound
  | some a =>
    rw [found] at current
    simp only [Option.all_some, Bool.and_eq_true, decide_eq_true_eq, Option.isNone_iff_eq_none]
      at current
    obtain ⟨⟨scheduled, kept⟩, unpaid⟩ := current
    have fresh : ∀ e ∈ db.executions, e.actionId ≠ actionId := by
      rintro e mem rfl
      obtain ⟨a', found', done⟩ := sound.executed e mem
      rw [found] at found'
      cases found'
      rw [scheduled] at done
      cases done
    refine ⟨sound.marked, sound.acted, List.nodup_cons.mpr ⟨?_, sound.once⟩, ?_, ?_, ?_⟩
    · intro mem
      obtain ⟨e, mem, same⟩ := List.mem_map.mp mem
      exact fresh e mem same
    · intro j k b c foundB foundC activeB activeC invoice type
      have before : ∀ {j b}, (db.actions.modify actionId fun a => { a with
          status := .executed, executedAt := some now, accessBlocked := accessBlocked }).find j =
          some b → ∃ b₀, db.actions.find j = some b₀ ∧ (b.active = true → b₀.active = true) ∧
            b.invoiceId = b₀.invoiceId ∧ b.actionType = b₀.actionType := by
        intro j b foundB
        rcases Table.find_modify_cases foundB with ⟨-, same⟩ | ⟨rfl, b₀, same, rfl⟩
        · exact ⟨b, same, id, rfl, rfl⟩
        · rw [found] at same
          cases same
          exact ⟨a, found, fun _ => by simp [DunningAction.active, scheduled, kept], rfl, rfl⟩
      obtain ⟨b₀, foundB, activeB', invoiceB, typeB⟩ := before foundB
      obtain ⟨c₀, foundC, activeC', invoiceC, typeC⟩ := before foundC
      exact sound.unique j k b₀ c₀ foundB foundC (activeB' activeB) (activeC' activeC)
        (invoiceB.symm.trans (invoice.trans invoiceC)) (typeB.symm.trans (type.trans typeC))
    · refine List.forall_mem_cons.mpr ⟨⟨_, by rw [Table.find_modify_self, found]; rfl, rfl⟩, ?_⟩
      intro e mem
      obtain ⟨a', found', done⟩ := sound.executed e mem
      exact ⟨a', by rw [Table.find_modify_ne _ (fresh e mem), found'], done⟩
    · refine List.forall_mem_cons.mpr ⟨⟨by rw [kept]; rfl, unpaid⟩, sound.current⟩

theorem DunningDb.Sound.next (sound : db.Sound) {call : DunningCall} {input : DunningInput}
    (current : dunningCurrent db call = true) : (nextDunning db call input).1.Sound := by
  cases call with
  | postponing =>
    simp only [nextDunning]
    split
    · refine sound.keep rfl rfl rfl ?_
      dsimp only
      refine ActionsKept.updateMany ?_ ?_ ?_
      · exact fun _ => ⟨rfl, rfl⟩
      · exact fun _ active => active
      · exact fun _ _ _ done => done
    · exact sound
  | collecting =>
    simp only [nextDunning]
    split <;> exact sound
  | marking ids => exact sound.markOverdue current
  | reading invoiceId =>
    simp only [nextDunning]
    split
    · exact sound
    · split
      · exact sound
      · split <;> exact sound
  | scheduling invoiceId base calendar =>
    cases calendar with
    | nil => exact sound
    | cons s calendar => exact sound.createAction invoiceId s.type _
  | loading actionId =>
    simp only [nextDunning]
    split
    · exact sound
    · split <;> exact sound
  | examining actionId action =>
    simp only [nextDunning]
    split
    · exact sound
    · split <;> exact sound
  | cancelling actionId =>
    refine sound.keep rfl rfl rfl ⟨fun k a' found active => ?_, fun k a found done => ?_⟩
    · rcases Table.find_modify_cases found with ⟨-, same⟩ | ⟨-, a, -, rfl⟩
      · exact ⟨a', same, active, rfl, rfl⟩
      · cases active
    · refine ⟨a, ?_, done⟩
      by_cases same : k = actionId
      · subst same
        simp [dunningCurrent, found, done] at current
      · exact (Table.find_modify_ne _ same _).trans found
  | acting actionId action =>
    have fresh : actionId ∉ db.acted := by simpa [dunningCurrent] using current
    have acts : (db.act actionId).Sound := ⟨sound.marked, List.nodup_cons.mpr ⟨fresh, sound.acted⟩,
      sound.once, sound.unique, sound.executed, sound.current⟩
    simp only [nextDunning]
    split
    · exact sound
    all_goals exact acts
  | recording actionId accessBlocked => exact sound.record accessBlocked input.now current
  | restarting invoiceId =>
    simp only [nextDunning]
    split
    · exact sound
    · split <;> exact sound
  | renewing invoiceId calendar => exact sound.renewCycle invoiceId calendar input.now
  | changing invoiceId event => exact sound.changeInvoice invoiceId event

/-! ### Runs -/

structure DunningQuiet (s : State DunningDb DunningCall) : Prop where
  running : s.running = []
  marked : s.db.marked = []
  acted : s.db.acted = []
  executions : s.db.executions = []
  unique : ActiveUnique s.db.actions

theorem DunningQuiet.sound {s : State DunningDb DunningCall} (quiet : DunningQuiet s) :
    s.db.Sound := by
  obtain ⟨-, marked, acted, executions, unique⟩ := quiet
  exact ⟨by simp [marked], by simp [acted], by simp [executions], unique, by simp [executions],
    by simp [executions]⟩

/-- In every run in which the writes of dunning find what their requests had read, it marks only what
is owed and carries out each action once, while it counts. -/
theorem dunning_never_late {s t : State DunningDb DunningCall} (quiet : DunningQuiet s)
    (run : Run dunningSystem.step
      (System.admits fun db r _ => dunningCurrent db r = true) s t) : t.db.NeverLate := by
  refine (System.invariant (P := DunningDb.Sound) (Q := fun _ _ => True) run quiet.sound
    (fun _ _ => trivial) (fun _ _ => trivial)
    (fun {db r input db' rest} sound _ current made => ?_)).1.neverLate
  have next : (nextDunning db r input).1.Sound := sound.next current
  rw [Option.some.inj made] at next
  exact ⟨next, fun _ _ => trivial, fun _ _ => trivial⟩

def dueInvoice : DunningInvoice where
  status := .issued
  kind := .invoice
  total := 10000
  dueDate := some 0
  lateFeeForInvoiceId := none
  lateFeeInvoice := none

def invoiceDue : State DunningDb DunningCall :=
  ⟨⟨Table.empty.push dueInvoice, Table.empty, [], [], []⟩, []⟩

theorem invoiceDue_quiet : DunningQuiet invoiceDue where
  running := rfl
  marked := rfl
  acted := rfl
  executions := rfl
  unique := by
    intro j k a b found
    cases found

def onDay (day : ℤ) : DunningInput where
  now := day * dayMs
  settings := ⟨false, 0, .all, 14, false⟩
  paymentInFlight := fun _ => false
  inActivePlan := fun _ => false
  effect := .done

/-- The invoice is marked and reminded of, paid, returned by the bank and reminded of again; the
access block of the first cycle is cancelled with it. -/
theorem dunning_never_late_returned :
    ∃ t : State DunningDb DunningCall, t.db.marked = [(0, .issued)] ∧
      t.db.executions.map DunningExecution.actionId = [4, 0] ∧ t.db.NeverLate := by
  obtain ⟨t, run, left⟩ := Run.exists_of_exec dunningSystem.step
    (System.admits fun db r _ => dunningCurrent db r = true) invoiceDue
    ([.start .dailyTick, .advance 0 (onDay 1), .advance 0 (onDay 1), .advance 0 (onDay 1),
      .start (.processInvoice 0), .advance 0 (onDay 1)] ++
      List.replicate 5 (.advance 0 (onDay 1)) ++
      [.start (.executeAction 0), .advance 0 (onDay 1), .advance 0 (onDay 1), .advance 0 (onDay 1),
        .advance 0 (onDay 1), .start (.change 0 .paid), .advance 0 (onDay 2),
        .start (.change 0 (.reverted true)), .advance 0 (onDay 3),
        .start (.restart 0), .advance 0 (onDay 3), .advance 0 (onDay 3),
        .start (.executeAction 4), .advance 0 (onDay 4), .advance 0 (onDay 4),
        .advance 0 (onDay 4), .advance 0 (onDay 4)])
    (fun t => t.db.marked = [(0, .issued)] &&
      t.db.executions.map DunningExecution.actionId = [4, 0]) (by decide +kernel)
  obtain ⟨marked, executed⟩ := Bool.and_eq_true_iff.mp left
  exact ⟨t, by simpa using marked, by simpa using executed, dunning_never_late invoiceDue_quiet run⟩

/-- The invoice is paid after the tick has read it, and the tick marks it as overdue. -/
theorem dunning_late :
    ¬∀ s t : State DunningDb DunningCall, DunningQuiet s → Reaches dunningSystem.step s t →
      t.db.NeverLate := by
  intro always
  obtain ⟨t, run, left⟩ := Run.exists_of_exec dunningSystem.step (fun _ _ => True) invoiceDue
    [.start .dailyTick, .advance 0 (onDay 1), .advance 0 (onDay 1), .start (.change 0 .paid),
      .advance 1 (onDay 1), .advance 0 (onDay 1)]
    (fun t => t.db.marked = [(0, .paid)]) (by decide +kernel)
  have marked : t.db.marked = [(0, .paid)] := by simpa using left
  have owed := (always _ t invoiceDue_quiet run).marked (0, .paid) (by simp [marked])
  cases owed

end StorageOS
