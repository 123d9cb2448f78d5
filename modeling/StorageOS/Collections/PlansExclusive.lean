import StorageOS.Collections.PaymentPlans
import StorageOS.Payments.Ledger

/-! Payment plans over any interleaving of requests: a completed plan was evaluated on invoices that
pay for it or that are no longer open, and while each plan is inserted with invoices that no active
plan has, no invoice is in two active plans. -/

namespace StorageOS

open Transition Processes

variable {db db' : PlanDb} {r : PlanCall} {input : PlanInput} {rest : Option PlanCall}

/-- A request of a creation, which has read nothing of the plans to be evaluated. -/
def PlanCall.creates : PlanCall → Bool
  | .findCustomer _ | .findInvoices _ | .findTaken .. | .insert .. => true
  | _ => false

inductive PlanMove (db : PlanDb) : PlanCall → PlanInput → PlanDb → Option PlanCall → Prop
  | ends {r : PlanCall} {input : PlanInput} : PlanMove db r input db none
  | reads {r r' : PlanCall} {input : PlanInput} (creates : r'.creates = true) :
    PlanMove db r input db (some r')
  | inserts {args : CreatePaymentPlanInput} {invoices : PlanInvoices} {at_ : Instant} :
    PlanMove db (.insert args invoices) (.proceed at_)
      { db with plans := db.plans.push (newPlan args invoices) } none
  | cancels {id : PlanId} {at_ : Instant} : PlanMove db (.cancel id) (.proceed at_)
      (db.close id fun plan => { plan with status := .cancelled, cancelledAt := some at_ }) none
  | evaluates {now : Instant} {today : Date} {id : PlanId} {plan : PaymentPlan}
      {plans : List (PlanId × PaymentPlan)} {at_ : Instant} :
    PlanMove db (.evaluate now today ((id, plan) :: plans)) (.proceed at_)
      (evaluatePlan db now today id plan plans).1 (some (evaluatePlan db now today id plan plans).2)
  | completes {now : Instant} {today : Date} {id : PlanId} {plans : List (PlanId × PaymentPlan)}
      {at_ : Instant} : PlanMove db (.complete now today id plans) (.proceed at_)
      (db.close id fun plan => { plan with status := .completed, completedAt := some now })
      (some (.evaluate now today plans))
  | breaks {now : Instant} {today : Date} {id : PlanId} {plans : List (PlanId × PaymentPlan)}
      {at_ : Instant} : PlanMove db (.break now today id plans) (.proceed at_)
      (db.close id fun plan => { plan with status := .broken, brokenAt := some now })
      (some (.evaluate now today plans))
  | others {docs : Table InvoiceId Account} {customers : List CustomerId} {at_ : Instant} :
    PlanMove db (.others docs customers) (.proceed at_) { db with docs, customers } none

theorem nextPlan_move (h : nextPlan db r input = some (db', rest)) : PlanMove db r input db' rest := by
  cases input with
  | fail =>
    rw [nextPlan] at h
    cases h
    exact .ends
  | proceed at_ =>
    cases r with
    | findCustomer args | findInvoices args | findTaken args invoices =>
      rw [nextPlan] at h
      split at h <;> cases h
      · exact .ends
      · exact .reads rfl
    | insert args invoices =>
      cases h
      exact .inserts
    | cancel id =>
      cases h
      exact .cancels
    | evaluate now today plans =>
      cases plans with
      | nil =>
        cases h
        exact .ends
      | cons head plans =>
        cases h
        exact .evaluates
    | complete now today id plans =>
      cases h
      exact .completes
    | «break» now today id plans =>
      cases h
      exact .breaks
    | others docs customers =>
      cases h
      exact .others

/-! ### What the plans keep -/

/-- Plans stay, with their total and what was paid at their start, and so do the readings. -/
structure PlanDb.Follows (db db' : PlanDb) : Prop where
  plans : ∀ id p, db.plans.find id = some p → ∃ p', db'.plans.find id = some p' ∧
    p'.totalAmount = p.totalAmount ∧ p'.paidAtStart = p.paidAtStart
  evaluated : ∀ e ∈ db.evaluated, e ∈ db'.evaluated

theorem PlanDb.Follows.of_plans (plans : db'.plans = db.plans)
    (evaluated : ∀ e ∈ db.evaluated, e ∈ db'.evaluated) : db.Follows db' :=
  ⟨fun _ p found => ⟨p, plans ▸ found, rfl, rfl⟩, evaluated⟩

variable {f : PaymentPlan → PaymentPlan} {id : PlanId} {plans : List (PlanId × PaymentPlan)}

variable {p' : PaymentPlan} {now : Instant} {today : Date} {plan : PaymentPlan}

theorem close_plan {id k : PlanId} (found : (db.close id f).plans.find k = some p') :
    db.plans.find k = some p' ∨ ∃ p, k = id ∧ db.plans.find k = some p ∧ p.status = .active ∧
      p' = f p := by
  rcases Table.find_modify_cases found with ⟨-, same⟩ | ⟨rfl, p, before, rfl⟩
  · exact .inl same
  · by_cases active : p.status = .active
    · exact .inr ⟨p, rfl, before, active, if_pos active⟩
    · rw [if_neg active]
      exact .inl before

theorem close_follows (terms : ∀ p, (f p).totalAmount = p.totalAmount ∧ (f p).paidAtStart = p.paidAtStart) :
    db.Follows (db.close id f) := by
  refine ⟨fun k p found => ?_, fun _ mem => mem⟩
  rw [PlanDb.close, Table.find_modify, found]
  split
  · refine ⟨_, rfl, ?_⟩
    dsimp only
    split
    · exact terms p
    · exact ⟨rfl, rfl⟩
  · exact ⟨p, rfl, rfl, rfl⟩

theorem evaluatePlan_db :
    ∃ invoices, (evaluatePlan db now today id plan plans).1 =
      { db with evaluated := (id, invoices) :: db.evaluated } := by
  unfold evaluatePlan
  dsimp only
  split
  · exact ⟨_, rfl⟩
  · split <;> exact ⟨_, rfl⟩

theorem PlanMove.follows (move : PlanMove db r input db' rest) : db.Follows db' := by
  cases move with
  | ends | reads | others => exact .of_plans rfl fun _ mem => mem
  | inserts => exact ⟨fun _ p found => ⟨p, Table.find_push_of_some found _, rfl, rfl⟩, fun _ mem => mem⟩
  | cancels | completes | breaks => exact close_follows fun _ => ⟨rfl, rfl⟩
  | evaluates =>
    obtain ⟨invoices, same⟩ := evaluatePlan_db
    rw [same]
    exact .of_plans rfl fun _ mem => List.mem_cons_of_mem _ mem

/-! ### Evaluations -/

/-- The plans that an evaluation has read are stored with the terms read. -/
def PlanDb.Read (db : PlanDb) (plans : List (PlanId × PaymentPlan)) : Prop :=
  ∀ e ∈ plans, ∃ p, db.plans.find e.1 = some p ∧ p.totalAmount = e.2.totalAmount ∧
    p.paidAtStart = e.2.paidAtStart

/-- A plan has a reading of its invoices that pay for it or of which none was open. -/
def PlanDb.Closable (db : PlanDb) (id : PlanId) : Prop :=
  ∃ p invoices, db.plans.find id = some p ∧ (id, invoices) ∈ db.evaluated ∧
    (p.totalAmount ≤ p.paid invoices ∨ ∀ i ∈ invoices, i.status.payable = false)

def PlanCall.Sound (db : PlanDb) : PlanCall → Prop
  | .evaluate _ _ plans | .break _ _ _ plans => db.Read plans
  | .complete _ _ id plans => db.Closable id ∧ db.Read plans
  | _ => True

theorem PlanDb.Read.follow (read : db.Read plans) (follows : db.Follows db') : db'.Read plans := by
  intro e mem
  obtain ⟨p, found, total, paid⟩ := read e mem
  obtain ⟨p', found', total', paid'⟩ := follows.plans e.1 p found
  exact ⟨p', found', total'.trans total, paid'.trans paid⟩

theorem PlanDb.Closable.follow (closable : db.Closable id) (follows : db.Follows db') : db'.Closable id := by
  obtain ⟨p, invoices, found, read, reason⟩ := closable
  obtain ⟨p', found', total, paid⟩ := follows.plans id p found
  refine ⟨p', invoices, found', follows.evaluated _ read, ?_⟩
  rw [total, PaymentPlan.paid, paid]
  exact reason

theorem PlanCall.Sound.follow (sound : r.Sound db) (follows : db.Follows db') : r.Sound db' := by
  cases r with
  | evaluate now today plans | «break» now today id plans => exact PlanDb.Read.follow sound follows
  | complete now today id plans => exact ⟨sound.1.follow follows, sound.2.follow follows⟩
  | _ => trivial

theorem PlanCall.Sound.of_creates (creates : r.creates = true) : r.Sound db := by
  cases r with
  | cancel | evaluate | complete | «break» | others => cases creates
  | _ => trivial

/-- Half a cent less than a whole number of cents is reached with all of them. -/
theorem covered_iff (plan : PaymentPlan) (invoices : List Invoice) :
    plan.covered invoices = true ↔ plan.totalAmount ≤ plan.paid invoices := by
  simp only [PaymentPlan.covered, euros, ge_iff_le, decide_eq_true_eq]
  generalize plan.totalAmount = total
  generalize plan.paid invoices = paid
  constructor
  · intro h
    have : (total : ℚ) < paid + 1 := by linarith
    exact Int.lt_add_one_iff.mp (by exact_mod_cast this)
  · intro h
    have : (total : ℚ) ≤ paid := by exact_mod_cast h
    linarith

theorem evaluatePlan_sound (read : db.Read ((id, plan) :: plans)) :
    (evaluatePlan db now today id plan plans).2.Sound
      (evaluatePlan db now today id plan plans).1 := by
  obtain ⟨p, found, total, paid⟩ := read (id, plan) List.mem_cons_self
  have left : db.Read plans := fun e mem => read e (List.mem_cons_of_mem _ mem)
  unfold evaluatePlan
  dsimp only
  split
  · rename_i closes
    refine ⟨⟨p, _, found, List.mem_cons_self, ?_⟩, left⟩
    rcases Bool.or_eq_true_iff.mp closes with closed | covered
    · refine .inr fun i mem => ?_
      simp only [stillOpen, Bool.not_eq_true', List.any_eq_false, Bool.not_eq_true] at closed
      exact closed i mem
    · refine .inl ?_
      rw [PaymentPlan.paid, total, paid]
      exact (covered_iff plan _).mp covered
  · split <;> exact left

theorem enterPlan_sound {request : PlanRequest} (h : enterPlan db request = some r) :
    r.Sound db := by
  cases request with
  | create | cancel | others =>
    cases h
    trivial
  | evaluateAll now today =>
    cases h
    intro e mem
    have row := (List.mem_filter.mp (List.mem_of_mem_take mem)).1
    exact ⟨e.2, Table.find_of_mem row, rfl, rfl⟩

theorem PlanMove.sound {r' : PlanCall} (move : PlanMove db r input db' (some r'))
    (sound : r.Sound db) : r'.Sound db' := by
  cases move with
  | reads creates => exact .of_creates creates
  | evaluates => exact evaluatePlan_sound sound
  | completes => exact PlanDb.Read.follow sound.2 (close_follows fun _ => ⟨rfl, rfl⟩)
  | breaks => exact PlanDb.Read.follow sound (close_follows fun _ => ⟨rfl, rfl⟩)

theorem PlanMove.coversOrClosed (move : PlanMove db r input db' rest) (sound : r.Sound db)
    (closed : db.CoversOrClosed) : db'.CoversOrClosed := by
  have follows := move.follows
  have kept : ∀ {id p}, db.plans.find id = some p → p.status = .completed → ∃ invoices,
      (id, invoices) ∈ db'.evaluated ∧ (p.totalAmount ≤ p.paid invoices ∨
        ∀ i ∈ invoices, i.status.payable = false) := by
    intro id p found completed
    obtain ⟨invoices, read, reason⟩ := closed id p found completed
    exact ⟨invoices, follows.evaluated _ read, reason⟩
  intro k p' found completed
  cases move with
  | ends | reads | others => exact kept found completed
  | inserts =>
    rw [Table.find_push] at found
    split at found
    · cases found
      cases completed
    · exact kept found completed
  | cancels | breaks =>
    rcases close_plan found with same | ⟨p, rfl, before, active, rfl⟩
    · exact kept same completed
    · cases completed
  | evaluates =>
    obtain ⟨invoices, same⟩ := evaluatePlan_db
    rw [same] at found
    exact kept found completed
  | completes =>
    rcases close_plan found with same | ⟨p, rfl, before, active, rfl⟩
    · exact kept same completed
    · obtain ⟨q, invoices, stored, read, reason⟩ := sound.1
      rw [before] at stored
      cases stored
      exact ⟨invoices, read, reason⟩

/-! ### Exclusion -/

theorem PlanDb.Exclusive.of_fewer (exclusive : db.Exclusive)
    (fewer : ∀ k p', db'.plans.find k = some p' → p'.status = .active →
      db.plans.find k = some p') : db'.Exclusive :=
  fun j k p q i foundP foundQ activeP activeQ memP memQ =>
    exclusive j k p q i (fewer j p foundP activeP) (fewer k q foundQ activeQ) activeP activeQ memP memQ

theorem close_fewer {id k : PlanId} (ends : ∀ p, (f p).status ≠ .active)
    (found : (db.close id f).plans.find k = some p') (active : p'.status = .active) : db.plans.find k = some p' := by
  rcases close_plan found with same | ⟨p, -, -, -, rfl⟩
  · exact same
  · exact absurd active (ends p)

theorem taken_of_shared {ids : List InvoiceId} {k : PlanId} {p : PaymentPlan} {i : InvoiceId}
    (found : db.plans.find k = some p) (active : p.status = .active) (mem : i ∈ p.invoiceIds)
    (asked : i ∈ ids) : db.taken ids = true := by
  rw [PlanDb.taken, List.any_eq_true]
  refine ⟨(k, p), Table.mem_of_find found, ?_⟩
  simp only [active, decide_true, Bool.true_and, List.any_eq_true, decide_eq_true_eq]
  exact ⟨i, mem, asked⟩

theorem PlanMove.exclusive (move : PlanMove db r input db' rest) (exclusive : db.Exclusive)
    (untaken : planUntaken db r input = true) : db'.Exclusive := by
  cases move with
  | ends | reads | others => exact exclusive
  | cancels | completes | breaks =>
    exact exclusive.of_fewer fun k p' found active => close_fewer (fun _ => by simp) found active
  | evaluates =>
    obtain ⟨invoices, same⟩ := evaluatePlan_db
    rw [same]
    exact exclusive
  | @inserts args invoices at_ =>
    have free : db.taken invoices.ids = false := by simpa [planUntaken] using untaken
    have apart : ∀ {k p i}, db.plans.find k = some p → p.status = .active → i ∈ p.invoiceIds →
        i ∉ invoices.ids := by
      intro k p i found active mem asked
      rw [taken_of_shared found active mem asked] at free
      cases free
    intro j k p q i foundP foundQ activeP activeQ memP memQ
    rw [Table.find_push] at foundP foundQ
    split at foundP
    · cases foundP
      split at foundQ
      · rename_i same same'
        exact same.trans same'.symm
      · exact absurd memP (apart foundQ activeQ memQ)
    · split at foundQ
      · cases foundQ
        exact absurd memQ (apart foundP activeP memP)
      · exact exclusive j k p q i foundP foundQ activeP activeQ memP memQ

/-! ### Runs -/

/-- No request is under way, no invoice is in two active plans and no plan is completed. -/
structure PlansQuiet (s : State PlanDb PlanCall) : Prop where
  running : s.running = []
  exclusive : s.db.Exclusive
  open_ : ∀ id plan, s.db.plans.find id = some plan → plan.status ≠ .completed

theorem PlansQuiet.closed {s : State PlanDb PlanCall} (quiet : PlansQuiet s) :
    s.db.CoversOrClosed :=
  fun id plan found completed => absurd completed (quiet.open_ id plan found)

/-- In every run a plan is completed only after its invoices were read, collected to the total of the
plan or none of them open. In every run where each plan is inserted with invoices that no active plan
has, no invoice is in two active plans. -/
theorem plans_exclusive {s : State PlanDb PlanCall} (quiet : PlansQuiet s) :
    (∀ t, Reaches planSystem.step s t → t.db.CoversOrClosed) ∧
    ∀ t, Run planSystem.step (System.admits fun db r input => planUntaken db r input = true) s t →
      t.db.Exclusive := by
  have start : ∀ r ∈ s.running, r.Sound s.db := by
    rw [quiet.running]
    simp
  constructor
  · intro t run
    exact (System.invariant (P := fun db => db.CoversOrClosed) (Q := fun db r => r.Sound db)
      (System.admitted run) quiet.closed start (fun _ entered => enterPlan_sound entered)
      (fun closed sound _ made => ⟨(nextPlan_move made).coversOrClosed sound closed,
        fun r' same => (nextPlan_move (same ▸ made)).sound sound,
        fun other sound => sound.follow (nextPlan_move made).follows⟩)).1
  · intro t run
    exact (System.invariant (P := fun db => db.Exclusive) (Q := fun _ _ => True) run
      quiet.exclusive (fun _ _ => trivial) (fun _ _ => trivial)
      (fun exclusive _ fits made => ⟨(nextPlan_move made).exclusive exclusive fits,
        fun _ _ => trivial, fun _ _ => trivial⟩)).1

/-- The issued invoice 0 of 100 € of customer 1, with what is paid of it and its status. -/
def planDocs (amountPaid : ℤ) (status : InvoiceStatus) : Table InvoiceId Account :=
  Table.empty.push ⟨{ issuedInvoice 10000 with amountPaid, status }, .empty⟩

def planBook : State PlanDb PlanCall := ⟨⟨planDocs 0 .issued, [1], .empty, []⟩, []⟩

def halves : CreatePaymentPlanInput := ⟨1, [], 2, 20100, .monthly, 7, none⟩

theorem planBook_quiet : PlansQuiet planBook where
  running := rfl
  exclusive := fun _ _ _ _ _ found => by cases found
  open_ := fun _ _ found => by cases found

/-- A plan is cancelled, another is made of the same invoice, collected and completed. -/
theorem plans_exclusive_book : ∃ t : State PlanDb PlanCall,
    (∃ p, t.db.plans.find 1 = some p ∧ p.status = .completed) ∧ t.db.CoversOrClosed ∧
      t.db.Exclusive := by
  obtain ⟨t, run, completed⟩ := Run.exists_of_exec planSystem.step
    (System.admits fun db r input => planUntaken db r input = true) planBook
    ([.start (.create halves)] ++ List.replicate 4 (.advance 0 (.proceed 0)) ++
      [.start (.cancel 0), .advance 0 (.proceed 1), .start (.create halves)] ++
      List.replicate 4 (.advance 0 (.proceed 0)) ++
      [.start (.others (planDocs 10000 .paid) [1]), .advance 0 (.proceed 0),
        .start (.evaluateAll 5 20110), .advance 0 (.proceed 5), .advance 0 (.proceed 5)])
    (fun t => (t.db.plans.find 1).any fun p => p.status = .completed) (by decide +kernel)
  obtain ⟨p, found, status⟩ := (Option.any_eq_true _ _).mp completed
  have sound := plans_exclusive planBook_quiet
  exact ⟨t, ⟨p, found, by simpa using status⟩, sound.1 t (run.mono fun _ _ _ => trivial),
    sound.2 t run⟩

/-- Two creations both find the invoice free before either inserts its plan; and a plan whose invoice
was cancelled is completed with nothing collected. -/
theorem plans_overlap :
    (¬∀ s t : State PlanDb PlanCall, PlansQuiet s → Reaches planSystem.step s t → t.db.Exclusive) ∧
    ¬∀ s t : State PlanDb PlanCall, PlansQuiet s → Reaches planSystem.step s t → t.db.Covers := by
  constructor
  · intro always
    obtain ⟨t, run, both⟩ := Run.exists_of_exec planSystem.step (fun _ _ => True) planBook
      ([.start (.create halves), .start (.create halves)] ++
        List.replicate 3 (.advance 0 (.proceed 0)) ++ List.replicate 3 (.advance 1 (.proceed 0)) ++
        [.advance 0 (.proceed 0), .advance 0 (.proceed 0)])
      (fun t => (t.db.plans.find 0).any (fun p => p.status = .active && 0 ∈ p.invoiceIds) &&
        (t.db.plans.find 1).any (fun p => p.status = .active && 0 ∈ p.invoiceIds))
      (by decide +kernel)
    obtain ⟨first, second⟩ := Bool.and_eq_true_iff.mp both
    obtain ⟨p, foundP, hp⟩ := (Option.any_eq_true _ _).mp first
    obtain ⟨q, foundQ, hq⟩ := (Option.any_eq_true _ _).mp second
    simp only [Bool.and_eq_true, decide_eq_true_eq] at hp hq
    have := always _ t planBook_quiet run 0 1 p q 0 foundP foundQ hp.1 hq.1 hp.2 hq.2
    cases this
  · intro always
    obtain ⟨t, run, closed⟩ := Run.exists_of_exec planSystem.step (fun _ _ => True) planBook
      ([.start (.create halves)] ++ List.replicate 4 (.advance 0 (.proceed 0)) ++
        [.start (.others (planDocs 0 .cancelled) [1]), .advance 0 (.proceed 0),
          .start (.evaluateAll 5 20110), .advance 0 (.proceed 5), .advance 0 (.proceed 5)])
      (fun t => (t.db.plans.find 0).any (fun p => p.status = .completed &&
        t.db.evaluated.all fun e => p.paid e.2 < p.totalAmount)) (by decide +kernel)
    obtain ⟨p, found, hp⟩ := (Option.any_eq_true _ _).mp closed
    simp only [Bool.and_eq_true, decide_eq_true_eq, List.all_eq_true] at hp
    obtain ⟨invoices, read, covers⟩ := always _ t planBook_quiet run 0 p found hp.1
    exact absurd covers (not_le.mpr (hp.2 _ read))

end StorageOS
