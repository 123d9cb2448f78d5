import Mathlib.Algebra.Order.BigOperators.Group.List
import StorageOS.Saas.PlatformDunning

/-! Dunning acts on debtors only, and each step of the escalation of a period takes effect once, in the runs where no
subscription is paid between a read and the change that follows it. -/

namespace StorageOS

open Transition Processes

variable {db db' : PlatformDunningDb} {call : PlatformDunningCall} {rest : Option PlatformDunningCall} {moment : Instant}
  {input : PlatformDunningInput} {event : DunningEvent}

def dunningInTurn (db : PlatformDunningDb) : PlatformDunningCall → PlatformDunningInput → Bool
  -- The periods of the lapsed subscriptions end when they did.
  | .marking due, .proceed _ => due.all fun q =>
    (db.accounts.find q.1).all fun account =>
      account.subscription.currentPeriodEnd = q.2.currentPeriodEnd
  -- The subscription of the tenant to suspend is past due.
  | .acting event _, .proceed _ => event.step ≠ .suspend ||
    (db.accounts.find event.tenantId).all fun account => account.subscription.status = .pastDue
  | .acting .., .throws | .acting .., .stops => false
  | _, _ => true

/-! ### Steps of the escalation -/

def PlatformDunningCall.carries (event : DunningEvent) : PlatformDunningCall → ℕ
  | .acting event' _ => if event' = event then 1 else 0
  | _ => 0

def Escalates (db db' : PlatformDunningDb) (call : PlatformDunningCall) (rest : Option PlatformDunningCall) : Prop :=
  ∀ event, db'.effects.count event + (rest.map (PlatformDunningCall.carries event)).getD 0 +
      db.events.count event =
    db.effects.count event + call.carries event + db'.events.count event

structure Escalated (db : PlatformDunningDb) (running : List PlatformDunningCall) : Prop where
  once : db.events.Nodup
  effect : ∀ event, db.effects.count event + (running.map (PlatformDunningCall.carries event)).sum =
    db.events.count event

theorem suspend_history (db : PlatformDunningDb) (tenantId : TenantId) (moment : Instant) :
    (db.suspend tenantId moment).effects = db.effects ∧
      (db.suspend tenantId moment).events = db.events ∧
      (db.suspend tenantId moment).pastDue = db.pastDue ∧
      (db.suspend tenantId moment).clock = db.clock := by
  rw [PlatformDunningDb.suspend]
  split
  · exact ⟨rfl, rfl, rfl, rfl⟩
  · split <;> exact ⟨rfl, rfl, rfl, rfl⟩

theorem act_history (db : PlatformDunningDb) (event : DunningEvent) (moment : Instant) :
    (db.act event moment).effects = event :: db.effects ∧ (db.act event moment).events = db.events ∧
      (db.act event moment).pastDue = db.pastDue ∧ (db.act event moment).clock = db.clock := by
  obtain ⟨effects, events, pastDue, clock⟩ := suspend_history db event.tenantId moment
  rw [PlatformDunningDb.act]
  cases event.step
  · exact ⟨rfl, rfl, rfl, rfl⟩
  · exact ⟨rfl, rfl, rfl, rfl⟩
  · exact ⟨congrArg _ effects, events, pastDue, clock⟩

theorem pay_history (db : PlatformDunningDb) (tenantId : TenantId) (durationMonths : ℕ) (moment : Instant) :
    (db.pay tenantId durationMonths moment).effects = db.effects ∧
      (db.pay tenantId durationMonths moment).events = db.events ∧
      (db.pay tenantId durationMonths moment).suspensions = db.suspensions ∧
      (db.pay tenantId durationMonths moment).clock = db.clock := by
  rw [PlatformDunningDb.pay]
  split <;> exact ⟨rfl, rfl, rfl, rfl⟩

theorem apply_history (db : PlatformDunningDb) (c : PlatformDunningChange) :
    (c.apply db).effects = db.effects ∧ (c.apply db).events = db.events ∧
      (c.apply db).pastDue = db.pastDue ∧ (c.apply db).suspensions = db.suspensions ∧
      (c.apply db).clock = db.clock := by
  cases c <;> exact ⟨rfl, rfl, rfl, rfl, rfl⟩

theorem stepDunning_escalates (made : stepDunning db moment call = (db', rest)) :
    Escalates db db' call rest ∧ (db.events.Nodup → db'.events.Nodup) := by
  cases call with
  | lapsing | marking | evaluating | confirming =>
    cases made
    exact ⟨fun _ => rfl, id⟩
  | running left =>
    cases left with
    | nil =>
      cases made
      exact ⟨fun _ => rfl, id⟩
    | cons event left =>
      rw [stepDunning] at made
      split at made
      · cases made
        exact ⟨fun _ => rfl, id⟩
      · rename_i fresh
        cases made
        refine ⟨fun event' => ?_, fun once => List.nodup_cons.mpr ⟨fresh, once⟩⟩
        change db.effects.count event' + (if event = event' then 1 else 0) + db.events.count event' =
          db.effects.count event' + 0 + (event :: db.events).count event'
        rw [List.count_cons]
        simp only [beq_iff_eq]
        omega
  | acting event left =>
    cases made
    obtain ⟨effects, events, -⟩ := act_history db event moment
    refine ⟨fun event' => ?_, fun once => by rw [events]; exact once⟩
    rw [effects, events, List.count_cons]
    simp only [beq_iff_eq]
    rfl
  | paying tenantId durationMonths =>
    cases made
    obtain ⟨effects, events, -⟩ := pay_history db tenantId durationMonths moment
    refine ⟨fun event' => ?_, fun once => by rw [events]; exact once⟩
    rw [effects, events]
    rfl
  | changing c =>
    cases made
    obtain ⟨effects, events, -⟩ := apply_history db c
    refine ⟨fun event' => ?_, fun once => by rw [events]; exact once⟩
    rw [effects, events]
    rfl

/-! ### Debtors -/

/-- The subscriptions changed to past due had lapsed, and those of the tenants suspended were past due. -/
structure PlatformDunningDb.Debtors (db : PlatformDunningDb) : Prop where
  lapsed : ∀ c ∈ db.pastDue, c.periodEnd ≤ c.changedAt
  pastDue : ∀ s ∈ db.suspensions, s.status = .pastDue

def PlatformDunningCall.ReadLapsed (db : PlatformDunningDb) : PlatformDunningCall → Prop
  | .lapsing _ due | .marking due => ∀ q ∈ due, q.2.currentPeriodEnd < db.clock
  | _ => True

theorem PlatformDunningCall.ReadLapsed.later (read : call.ReadLapsed db) (order : db.clock ≤ db'.clock) :
    call.ReadLapsed db' := by
  cases call with
  | lapsing | marking => exact fun q mem => (read q mem).trans_le order
  | _ => trivial

theorem enterDunning_lapsed {request : PlatformDunningRequest} (entered : enterPlatformDunning db request = some call) :
    call.ReadLapsed db ∧ ∀ event, call.carries event = 0 := by
  cases request with
  | markLapsedManualPastDue =>
    cases entered
    refine ⟨fun q mem => ?_, fun _ => rfl⟩
    obtain ⟨row, selected, rfl⟩ := List.mem_map.mp mem
    have lapsed := (List.mem_filter.mp selected).2
    simp only [SaasAccount.lapsed, Bool.and_eq_true, decide_eq_true_eq] at lapsed
    exact lapsed.1.1.1.1.2
  | run settings =>
    rw [enterPlatformDunning] at entered
    split at entered <;> cases entered
    exact ⟨trivial, fun _ => rfl⟩
  | recordManualPayment | confirmStripe | change =>
    cases entered
    exact ⟨trivial, fun _ => rfl⟩

theorem markPastDue_debtors {due : ReadSubscriptions} (debtors : db.Debtors)
    (read : (PlatformDunningCall.marking due).ReadLapsed db) (clock : db.clock = moment)
    (inTurn : dunningInTurn db (.marking due) (.proceed moment) = true) :
    (db.markPastDue due moment).Debtors := by
  refine ⟨fun c mem => ?_, debtors.pastDue⟩
  rcases List.mem_append.mp mem with mem | mem
  · obtain ⟨row, selected, rfl⟩ := List.mem_map.mp mem
    obtain ⟨there, chosen⟩ := List.mem_filter.mp selected
    obtain ⟨q, due_, same⟩ := List.mem_map.mp (of_decide_eq_true chosen)
    have unchanged := List.all_eq_true.mp inTurn q due_
    rw [same, Table.find_of_mem there, Option.all_some, decide_eq_true_eq] at unchanged
    have lapsed := read q due_
    rw [clock, ← unchanged] at lapsed
    exact lapsed.le
  · exact debtors.lapsed c mem

theorem act_debtors {left : List DunningEvent} (debtors : db.Debtors)
    (inTurn : dunningInTurn db (.acting event left) (.proceed moment) = true) :
    (db.act event moment).Debtors := by
  refine ⟨fun c mem => ?_, fun s mem => ?_⟩
  · rw [(act_history db event moment).2.2.1] at mem
    exact debtors.lapsed c mem
  · rw [PlatformDunningDb.act] at mem
    cases step : event.step with
    | reminder1 | reminder2 =>
      rw [step] at mem
      exact debtors.pastDue s mem
    | suspend =>
      rw [step, PlatformDunningDb.suspend] at mem
      rw [dunningInTurn, step] at inTurn
      cases found : db.accounts.find event.tenantId with
      | none =>
        rw [found] at mem
        exact debtors.pastDue s mem
      | some account =>
        rw [found] at mem inTurn
        dsimp only at mem
        split at mem
        · rcases List.mem_cons.mp mem with rfl | mem
          · simpa using inTurn
          · exact debtors.pastDue s mem
        · exact debtors.pastDue s mem

theorem pay_debtors {tenantId : TenantId} {durationMonths : ℕ} (debtors : db.Debtors) :
    (db.pay tenantId durationMonths moment).Debtors := by
  refine ⟨fun c mem => ?_, fun s mem => ?_⟩
  · rw [PlatformDunningDb.pay] at mem
    split at mem
    · exact debtors.lapsed c mem
    · dsimp only at mem
      split at mem
      · rename_i account _ owed
        rcases List.mem_cons.mp mem with rfl | mem
        · rw [SaasAccount.recordManualPayment] at owed ⊢
          dsimp only at owed ⊢
          split at owed
          · cases owed
          · rename_i uncovered
            simpa using uncovered
        · exact debtors.lapsed c mem
      · exact debtors.lapsed c mem
  · rw [(pay_history db tenantId durationMonths moment).2.2.1] at mem
    exact debtors.pastDue s mem

theorem stepDunning_debtors (debtors : db.Debtors) (read : call.ReadLapsed db) (clock : db.clock = moment)
    (inTurn : dunningInTurn db call (.proceed moment) = true)
    (made : stepDunning db moment call = (db', rest)) :
    db'.Debtors ∧ db'.clock = db.clock ∧ ∀ next, rest = some next → next.ReadLapsed db' := by
  cases call with
  | lapsing now lapsed =>
    cases made
    refine ⟨debtors, rfl, fun next goesOn => ?_⟩
    cases goesOn
    exact fun q mem => read q (List.mem_filter.mp mem).1
  | marking =>
    cases made
    exact ⟨markPastDue_debtors debtors read clock inTurn, rfl, goesOn_none⟩
  | evaluating =>
    cases made
    refine ⟨debtors, rfl, fun next goesOn => ?_⟩
    cases goesOn
    trivial
  | running left =>
    cases left with
    | nil =>
      cases made
      exact ⟨debtors, rfl, goesOn_none⟩
    | cons event left =>
      rw [stepDunning] at made
      split at made <;>
      · cases made
        refine ⟨⟨debtors.lapsed, debtors.pastDue⟩, rfl, fun next goesOn => ?_⟩
        cases goesOn
        trivial
  | acting event left =>
    cases made
    refine ⟨act_debtors debtors inTurn, (act_history db event moment).2.2.2, fun next goesOn => ?_⟩
    cases goesOn
    trivial
  | paying tenantId durationMonths =>
    cases made
    exact ⟨pay_debtors debtors, (pay_history db tenantId durationMonths moment).2.2.2,
      goesOn_none⟩
  | confirming =>
    cases made
    exact ⟨⟨debtors.lapsed, debtors.pastDue⟩, rfl, goesOn_none⟩
  | changing c =>
    cases made
    obtain ⟨-, -, pastDue, suspensions, clock⟩ := apply_history db c
    exact ⟨⟨by rw [pastDue]; exact debtors.lapsed, by rw [suspensions]; exact debtors.pastDue⟩, clock,
      goesOn_none⟩

/-! ### Runs -/

theorem throwDunning_next {next : PlatformDunningCall} (inTurn : dunningInTurn db call .throws = true)
    (goesOn : throwDunning call = some next) : ∀ db : PlatformDunningDb, next.ReadLapsed db := by
  cases call with
  | running left =>
    cases left <;> cases goesOn
    exact fun _ => trivial
  | acting => cases inTurn
  | _ => cases goesOn

theorem throwDunning_escalates (inTurn : dunningInTurn db call .throws = true) :
    Escalates db db call (throwDunning call) := by
  cases call with
  | running left => cases left <;> exact fun _ => rfl
  | acting => cases inTurn
  | _ => exact fun _ => rfl

theorem stopDunning_escalates (inTurn : dunningInTurn db call .stops = true) :
    Escalates db db call none := by
  cases call with
  | acting => cases inTurn
  | _ => exact fun _ => rfl

theorem nextDunning_moves (debtors : db.Debtors) (read : call.ReadLapsed db)
    (inTurn : dunningInTurn db call input = true)
    (made : nextPlatformDunning db call input = some (db', rest)) :
    db'.Debtors ∧ db.clock ≤ db'.clock ∧ (∀ next, rest = some next → next.ReadLapsed db') ∧
      Escalates db db' call rest ∧ (db.events.Nodup → db'.events.Nodup) := by
  cases input with
  | proceed moment =>
    rw [nextPlatformDunning] at made
    split at made
    · cases made
    · rename_i order
      have step : stepDunning { db with clock := moment } moment call = (db', rest) :=
        Option.some.inj made
      have later : db.clock ≤ moment := not_lt.mp order
      obtain ⟨escalates, once⟩ := stepDunning_escalates step
      have debtors' : PlatformDunningDb.Debtors { db with clock := moment } :=
        ⟨debtors.lapsed, debtors.pastDue⟩
      have read' : call.ReadLapsed { db with clock := moment } := read.later later
      have inTurn' : dunningInTurn { db with clock := moment } call (.proceed moment) = true := by
        cases call <;> exact inTurn
      obtain ⟨kept, clock, goesOn⟩ := stepDunning_debtors debtors' read' rfl inTurn' step
      exact ⟨kept, later.trans_eq clock.symm, goesOn, escalates, once⟩
  | throws =>
    cases made
    exact ⟨debtors, le_rfl, fun next goesOn => throwDunning_next inTurn goesOn db,
      throwDunning_escalates inTurn, id⟩
  | stops =>
    cases made
    exact ⟨debtors, le_rfl, goesOn_none,
      stopDunning_escalates inTurn, id⟩

variable {t : State PlatformDunningDb PlatformDunningCall} {accounts : Table TenantId SaasAccount} {clock : Instant}

structure Dunned (t : State PlatformDunningDb PlatformDunningCall) : Prop where
  debtors : t.db.Debtors
  read : ∀ call ∈ t.running, call.ReadLapsed t.db
  escalated : Escalated t.db t.running

theorem dunned_next {running : List PlatformDunningCall} {i : ℕ} (dunned : Dunned ⟨db, running⟩)
    (inTurn : dunningInTurn db call input = true) (found : running[i]? = some call)
    (made : nextPlatformDunning db call input = some (db', rest)) : Dunned ⟨db', resume running i rest⟩ := by
  have mem := List.mem_of_getElem? found
  obtain ⟨debtors, later, goesOn, escalates, once⟩ :=
    nextDunning_moves dunned.debtors (dunned.read call mem) inTurn made
  refine ⟨debtors, fun call' mem' => ?_, once dunned.escalated.once, fun event => ?_⟩
  · rcases mem_resume mem' with before | next
    · exact (dunned.read call' before).later later
    · exact goesOn call' next
  · have resumed := sum_resume (PlatformDunningCall.carries event) found rest
    have before : db.effects.count event + (running.map (PlatformDunningCall.carries event)).sum =
      db.events.count event := dunned.escalated.effect event
    have moved : db'.effects.count event + (rest.map (PlatformDunningCall.carries event)).getD 0 +
      db.events.count event = db.effects.count event + call.carries event + db'.events.count event :=
      escalates event
    change db'.effects.count event + ((resume running i rest).map (PlatformDunningCall.carries event)).sum =
      db'.events.count event
    omega

theorem dunned_run
    (run : Run platformDunningSystem.step
      (System.admits fun db call input => dunningInTurn db call input = true)
      ⟨.opening accounts clock, []⟩ t) : Dunned t := by
  have inTurn : Run platformDunningSystem.step
      (System.admitsIn fun x call input => dunningInTurn x.db call input = true)
      ⟨.opening accounts clock, []⟩ t := run.mono fun x a fits => by cases a <;> exact fits
  refine System.invariant_in (J := Dunned) inTurn ?_ (fun dunned entered => ?_)
    fun dunned fits found made => dunned_next dunned fits found made
  · exact ⟨⟨fun c mem => (List.not_mem_nil mem).elim, fun s mem => (List.not_mem_nil mem).elim⟩,
      fun call mem => (List.not_mem_nil mem).elim, .nil, fun event => rfl⟩
  · obtain ⟨read, idle⟩ := enterDunning_lapsed entered
    refine ⟨dunned.debtors, fun call mem => ?_, dunned.escalated.once, fun event => ?_⟩
    · rcases List.mem_append.mp mem with mem | mem
      · exact dunned.read call mem
      · rw [List.mem_singleton.mp mem]
        exact read
    · rw [← dunned.escalated.effect event, List.map_append, List.sum_append, List.map_singleton,
        List.sum_singleton, idle event]
      rfl

/-- Only lapsed subscriptions are changed to past due, only tenants past due are suspended, and each step of
a period takes effect at most once, and once unless it is being carried out. -/
theorem dunning_debtors
    (run : Run platformDunningSystem.step
      (System.admits fun db call input => dunningInTurn db call input = true)
      ⟨.opening accounts clock, []⟩ t) :
    (∀ c ∈ t.db.pastDue, c.periodEnd ≤ c.changedAt) ∧ (∀ s ∈ t.db.suspensions, s.status = .pastDue) ∧
      t.db.effects.Nodup ∧
      ∀ event ∈ t.db.events, event ∈ t.db.effects ∨ ∃ left, .acting event left ∈ t.running := by
  have dunned := dunned_run run
  refine ⟨dunned.debtors.lapsed, dunned.debtors.pastDue, ?_, fun event mem => ?_⟩
  · refine List.nodup_iff_count_le_one.mpr fun event => ?_
    have counted := dunned.escalated.effect event
    have once := List.nodup_iff_count_le_one.mp dunned.escalated.once event
    omega
  · by_cases effect : event ∈ t.db.effects
    · exact .inl effect
    · have counted := dunned.escalated.effect event
      rw [List.count_eq_zero_of_not_mem effect, zero_add] at counted
      have recorded : t.db.events.count event ≠ 0 := (List.count_pos_iff.mpr mem).ne'
      rw [← counted] at recorded
      obtain ⟨n, carried, nonzero⟩ := List.exists_mem_ne_zero_of_sum_ne_zero recorded
      obtain ⟨call, running, rfl⟩ := List.mem_map.mp carried
      cases call with
      | acting event' left =>
        rw [PlatformDunningCall.carries] at nonzero
        have same : event' = event := by_contra fun other => nonzero (if_neg other)
        exact .inr ⟨left, same ▸ running⟩
      | _ =>
        exact absurd rfl nonzero

/-! ### Failures -/

def debtor : SaasAccount where
  subscription := ⟨.active, .manual, none, -30 * saasDayMs, 0, 0, 4900⟩
  tenant := ⟨.active, false, none, false, none, none⟩

def debtors : Table TenantId SaasAccount := Table.empty.push debtor

def escalation : PlatformDunningSettings := ⟨true, 3, 7, 15⟩

def day20 : Instant := 20 * saasDayMs

/-- A subscription lapses, and twenty days later its tenant is reminded twice and suspended. -/
theorem dunning_debtors_suspended : ∃ t : State PlatformDunningDb PlatformDunningCall,
    t.db.effects.map (·.step) = [.suspend, .reminder2, .reminder1] ∧
      (∀ c ∈ t.db.pastDue, c.periodEnd ≤ c.changedAt) ∧ (∀ s ∈ t.db.suspensions, s.status = .pastDue) ∧
      t.db.effects.Nodup ∧
      ∀ event ∈ t.db.events, event ∈ t.db.effects ∨ ∃ left, .acting event left ∈ t.running := by
  obtain ⟨t, run, suspended⟩ := Run.exists_of_exec platformDunningSystem.step
    (System.admits fun db call input => dunningInTurn db call input = true)
    ⟨.opening debtors day20, []⟩
    [.start .markLapsedManualPastDue, .advance 0 (.proceed day20), .advance 0 (.proceed day20),
      .start (.run escalation), .advance 0 (.proceed day20), .advance 0 (.proceed day20),
      .advance 0 (.proceed day20), .advance 0 (.proceed day20), .advance 0 (.proceed day20),
      .advance 0 (.proceed day20), .advance 0 (.proceed day20), .advance 0 (.proceed day20)]
    (fun t => t.db.effects.map (·.step) = [.suspend, .reminder2, .reminder1]) (by decide +kernel)
  exact ⟨t, of_decide_eq_true suspended, dunning_debtors run⟩

/-- A payment between the read and the change leaves a paid subscription past due, one between the read and
the suspension suspends a tenant that has paid, and a step that stops when recorded never takes effect. -/
theorem dunning_astray :
    ¬(∀ t, Reaches platformDunningSystem.step ⟨.opening debtors day20, []⟩ t →
      ∀ c ∈ t.db.pastDue, c.periodEnd ≤ c.changedAt) ∧
    ¬(∀ t, Reaches platformDunningSystem.step ⟨.opening debtors day20, []⟩ t →
      ∀ s ∈ t.db.suspensions, s.status = .pastDue) ∧
    ¬(∀ t, Reaches platformDunningSystem.step ⟨.opening debtors day20, []⟩ t →
      ∀ event ∈ t.db.events, event ∈ t.db.effects ∨ ∃ left, .acting event left ∈ t.running) := by
  refine ⟨fun all => ?_, fun all => ?_, fun all => ?_⟩
  · obtain ⟨t, run, ahead⟩ := Run.exists_of_exec platformDunningSystem.step (fun _ _ => True)
      ⟨.opening debtors day20, []⟩
      [.start .markLapsedManualPastDue, .start (.recordManualPayment 0 1), .advance 1 (.proceed day20),
        .advance 0 (.proceed day20), .advance 0 (.proceed day20)]
      (fun t => t.db.pastDue.any fun c => c.changedAt < c.periodEnd) (by decide +kernel)
    obtain ⟨c, mem, early⟩ := List.any_eq_true.mp ahead
    exact absurd (all t run c mem) (not_le.mpr (of_decide_eq_true early))
  · obtain ⟨t, run, paid⟩ := Run.exists_of_exec platformDunningSystem.step (fun _ _ => True)
      ⟨.opening debtors day20, []⟩
      [.start .markLapsedManualPastDue, .advance 0 (.proceed day20), .advance 0 (.proceed day20),
        .start (.run escalation), .start (.recordManualPayment 0 1), .advance 1 (.proceed day20),
        .advance 0 (.proceed day20), .advance 0 (.proceed day20), .advance 0 (.proceed day20),
        .advance 0 (.proceed day20), .advance 0 (.proceed day20), .advance 0 (.proceed day20),
        .advance 0 (.proceed day20)]
      (fun t => t.db.suspensions.any fun s => s.status ≠ .pastDue) (by decide +kernel)
    obtain ⟨s, mem, active⟩ := List.any_eq_true.mp paid
    exact of_decide_eq_true active (all t run s mem)
  · obtain ⟨t, run, lost⟩ := Run.exists_of_exec platformDunningSystem.step (fun _ _ => True)
      ⟨.opening debtors day20, []⟩
      [.start .markLapsedManualPastDue, .advance 0 (.proceed day20), .advance 0 (.proceed day20),
        .start (.run escalation), .advance 0 (.proceed day20), .advance 0 (.proceed day20),
        .advance 0 .stops]
      (fun t => t.running.isEmpty && t.db.events.any fun event => event ∉ t.db.effects)
      (by decide +kernel)
    rw [Bool.and_eq_true, List.isEmpty_iff] at lost
    obtain ⟨event, mem, idle⟩ := List.any_eq_true.mp lost.2
    rcases all t run event mem with effect | ⟨left, running⟩
    · exact of_decide_eq_true idle effect
    · rw [lost.1] at running
      cases running

end StorageOS
