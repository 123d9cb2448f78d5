import StorageOS.Saas.PlatformRedsys

/-! Each approval of Redsys is recorded once as a payment or alerted, and no period is charged twice, in the runs
where nothing fails or ends between an approval and its payment or alert. -/

namespace StorageOS

open Transition Processes

variable {db db' : PlatformRedsysDb} {call : PlatformRedsysCall} {rest : Option PlatformRedsysCall}
  {input : PlatformRedsysInput} {o o' : PlatformOrderId} {row row' : PlatformOrder}
  {p : SubscriptionPaymentId} {payment : PeriodPayment} {initial : TenantId → Instant} {now : Instant}

def PeriodPayment.forOrder (o : PlatformOrderId) (p : PeriodPayment) : Bool :=
  p.provider = .redsys && p.description.any fun text => decide (orderMark o <:+ text.toList)

def PlatformRedsysDb.settled (db : PlatformRedsysDb) (o : PlatformOrderId) : ℕ :=
  db.books.payments.values.countP (PeriodPayment.forOrder o) + db.alerts.count o

def PlatformRedsysCall.settles (o : PlatformOrderId) : PlatformRedsysCall → ℕ
  | .saving o' _ | .automating o' _ | .recording o' _ _ | .alerting o' _ => if o' = o then 1 else 0
  | _ => 0

def PlatformOrder.live (row : PlatformOrder) : Bool :=
  row.auto && (row.status = .charging || row.status = .paid)

def redsysInTurn (db : PlatformRedsysDb) (call : PlatformRedsysCall) (input : PlatformRedsysInput) : Bool :=
  match input.statement, call with
  -- An approval is not cut off before its payment or alert, and neither fails once it is made.
  | .stops, .saving .. | .stops, .automating .. | .stops, .recording .. | .stops, .alerting .. => false
  | .throws, .linking .. | .throwsAfterwards, .linking .. | .throws, .alerting .. => false
  | .throwsAfterwards, .recording o row _ =>
    (db.books.recordManualPayment (row.paymentArgs o) input.moment).isNone
  | .stops, _ | .throws, _ => true
  -- An order that is approved has not been denied.
  | _, .claiming o _ approved _ | _, .answering _ o _ approved =>
    !approved || !(db.orders.find o).any fun row => row.status = .failed
  -- The attempts of a period are those that were read, and none for it was approved.
  | _, .creating _ tenantId periodEnd seen =>
    !db.cards.contains tenantId || input.amount ≤ 0 || (db.orders.find input.order).isSome ||
      ((db.attempts tenantId periodEnd).length = seen && db.orders.values.all fun row =>
        !(row.auto && row.tenantId = tenantId && row.periodEnd = periodEnd && row.status = .paid))
  | _, _ => true

/-! ### Orders -/

structure PlatformOrder.Keeps (row row' : PlatformOrder) : Prop where
  tenantId : row'.tenantId = row.tenantId
  months : row'.months = row.months
  auto : row'.auto = row.auto
  createdAt : row'.createdAt = row.createdAt
  periodEnd : row'.periodEnd = row.periodEnd
  live : row'.live = true → row.live = true
  charging : row'.status = .charging → row.status = .charging
  paid : row.status = .paid → row'.status = .paid
  opened : row.auto = true → row.status ≠ .pending ∧ row.status ≠ .replaced →
    row'.status ≠ .pending ∧ row'.status ≠ .replaced

theorem PlatformOrder.Keeps.refl (row : PlatformOrder) : row.Keeps row :=
  ⟨rfl, rfl, rfl, rfl, rfl, id, id, id, fun _ => id⟩

/-- A period has one automatic charge in flight or approved, made when the period had ended. -/
structure OrdersApart (orders : Table PlatformOrderId PlatformOrder) : Prop where
  apart : ∀ o row o' row', orders.find o = some row → orders.find o' = some row' → row.live = true →
    row'.live = true → row'.tenantId = row.tenantId → row'.periodEnd = row.periodEnd → o' = o
  ended : ∀ o row, orders.find o = some row → row.auto = true → row.periodEnd ≤ row.createdAt
  opened : ∀ o row, orders.find o = some row → row.auto = true → row.status ≠ .pending ∧ row.status ≠ .replaced

variable {orders orders' : Table PlatformOrderId PlatformOrder}

theorem OrdersApart.kept (held : OrdersApart orders)
    (kept : ∀ o row', orders'.find o = some row' →
      ∃ row : PlatformOrder, orders.find o = some row ∧ row.Keeps row') : OrdersApart orders' where
  apart o row o' row' there there' live live' tenant period := by
    obtain ⟨b, before, keeps⟩ := kept o row there
    obtain ⟨b', before', keeps'⟩ := kept o' row' there'
    rw [keeps.tenantId, keeps'.tenantId] at tenant
    rw [keeps.periodEnd, keeps'.periodEnd] at period
    exact held.apart o b o' b' before before' (keeps.live live) (keeps'.live live') tenant period
  ended o row there auto := by
    obtain ⟨b, before, keeps⟩ := kept o row there
    rw [keeps.periodEnd, keeps.createdAt]
    exact held.ended o b before (keeps.auto ▸ auto)
  opened o row there auto := by
    obtain ⟨b, before, keeps⟩ := kept o row there
    have before_ : b.auto = true := keeps.auto ▸ auto
    exact keeps.opened before_ (held.opened o b before before_)

theorem OrdersApart.create (held : OrdersApart orders) (new : orders.find o = none)
    (ended : row.auto = true → row.periodEnd ≤ row.createdAt)
    (opened : row.auto = true → row.status ≠ .pending ∧ row.status ≠ .replaced)
    (free : row.live = true → ∀ o' row', orders.find o' = some row' → row'.live = true →
      row'.tenantId = row.tenantId → row'.periodEnd ≠ row.periodEnd) :
    OrdersApart (orders.upsert o row id) := by
  have cases_ : ∀ o' row', (orders.upsert o row id).find o' = some row' →
      (o' = o ∧ row' = row) ∨ orders.find o' = some row' := by
    intro o' row' there
    rw [Table.find_upsert, new] at there
    split at there
    · rename_i own
      exact .inl ⟨own, (Option.some.inj there).symm⟩
    · exact .inr there
  refine ⟨fun a ra b rb there there' live live' tenant period => ?_, fun a ra there => ?_, fun a ra there => ?_⟩
  · rcases cases_ a ra there with ⟨rfl, rfl⟩ | before <;> rcases cases_ b rb there' with ⟨rfl, rfl⟩ | before'
    · rfl
    · exact (free live b rb before' live' tenant period).elim
    · exact (free live' a ra before live tenant.symm period.symm).elim
    · exact held.apart a ra b rb before before' live live' tenant period
  · rcases cases_ a ra there with ⟨rfl, rfl⟩ | before
    · exact ended
    · exact held.ended a ra before
  · rcases cases_ a ra there with ⟨rfl, rfl⟩ | before
    · exact opened
    · exact held.opened a ra before

variable {status : PlatformOrderStatus} {db'' : PlatformRedsysDb} {statuses : List PlatformOrderStatus}

theorem setStatus_keeps (live : row.auto = true → status = .paid → row.status = .charging)
    (notCharging : status ≠ .charging) (paid : row.status = .paid → status = .paid)
    (opened : row.auto = true → status ≠ .pending ∧ status ≠ .replaced) :
    row.Keeps { row with status } := by
  refine ⟨rfl, rfl, rfl, rfl, rfl, fun lives => ?_, fun charges => (notCharging charges).elim, paid,
    fun auto _ => opened auto⟩
  simp only [PlatformOrder.live, Bool.and_eq_true, Bool.or_eq_true, decide_eq_true_eq] at lives ⊢
  exact ⟨lives.1, .inl (lives.2.elim (fun charges => (notCharging charges).elim) (live lives.1))⟩

/-! ### Attempts -/

/-- Attempts are not lost, and none of those there goes back in flight. -/
def AttemptsGrow (db db' : PlatformRedsysDb) : Prop := ∀ tenantId periodEnd,
  (db.attempts tenantId periodEnd).length ≤ (db'.attempts tenantId periodEnd).length ∧
    ((db'.attempts tenantId periodEnd).length = (db.attempts tenantId periodEnd).length →
      (∀ row ∈ db.attempts tenantId periodEnd, row.status ≠ .charging) →
        ∀ row ∈ db'.attempts tenantId periodEnd, row.status ≠ .charging)

theorem AttemptsGrow.of_same (same : db'.orders = db.orders) : AttemptsGrow db db' := by
  intro tenantId periodEnd
  rw [PlatformRedsysDb.attempts, PlatformRedsysDb.attempts, same]
  exact ⟨le_rfl, fun _ => id⟩

theorem AttemptsGrow.trans (first : AttemptsGrow db db') (second : AttemptsGrow db' db'') : AttemptsGrow db db'' := by
  intro tenantId periodEnd
  obtain ⟨more, idle⟩ := first tenantId periodEnd
  obtain ⟨more', idle'⟩ := second tenantId periodEnd
  refine ⟨more.trans more', fun same none_ => ?_⟩
  exact idle' (by omega) (idle (by omega) none_)

variable {f : PlatformOrder → PlatformOrder} {tenantId : TenantId}

theorem attemptsGrow_modify
    (same : ∀ row tenantId periodEnd, (f row).attempts tenantId periodEnd = row.attempts tenantId periodEnd)
    (charging : ∀ row, db.orders.find o = some row → (f row).status = .charging → row.status = .charging)
    (modified : db'.orders = db.orders.modify o f) : AttemptsGrow db db' := by
  intro tenantId periodEnd
  have rows : db'.orders.rows.filter (fun q => q.2.attempts tenantId periodEnd) =
      (db.orders.rows.filter fun q => q.2.attempts tenantId periodEnd).map
        fun q => if q.1 = o then (q.1, f q.2) else q := by
    rw [modified]
    exact Table.filter_modify_map fun row => same row tenantId periodEnd
  rw [PlatformRedsysDb.attempts, PlatformRedsysDb.attempts, rows]
  refine ⟨by simp, fun _ none_ row mem => ?_⟩
  simp only [List.map_map, List.mem_map, Function.comp_apply] at mem
  obtain ⟨q, selected, rfl⟩ := mem
  have before := none_ q.2 (List.mem_map_of_mem selected)
  split
  · rename_i own
    exact fun charges => before (charging q.2 (own ▸ Table.find_of_mem (List.mem_filter.mp selected).1) charges)
  · exact before

theorem attemptsGrow_create (new : db.orders.find o = none) (created : db'.orders = db.orders.upsert o row id) :
    AttemptsGrow db db' := by
  intro tenantId periodEnd
  rw [PlatformRedsysDb.attempts, PlatformRedsysDb.attempts, created, Table.rows_upsert_new new,
    List.filter_append, List.map_append]
  refine ⟨by simp, fun same none_ => ?_⟩
  rw [List.length_append, Nat.add_eq_left, List.length_eq_zero_iff] at same
  rw [same, List.append_nil]
  exact none_

/-! ### Payments of an order -/

theorem orderMark_suffix {text : List Char} (own : orderMark o <:+ text) (other : orderMark o' <:+ text) :
    o' = o := by
  have length : ∀ o : PlatformOrderId, (orderMark o).length = " · pedido ".toList.length + 12 := by
    intro o
    rw [orderMark, List.length_append]
    exact congrArg _ (String.length_toList.trans o.property)
  have same : orderMark o' = orderMark o :=
    (List.suffix_of_suffix_length_le other own (by rw [length, length])).eq_of_length (by rw [length, length])
  exact Subtype.ext (String.toList_injective (List.append_cancel_left same))

theorem description_suffix (row : PlatformOrder) (o : PlatformOrderId) :
    orderMark o <:+ (row.description o).toList := by
  rw [PlatformOrder.description, String.toList_append, String.toList_ofList]
  exact List.suffix_append _ _

theorem forOrder_iff (provider : payment.provider = .redsys)
    (text : payment.description = some (row.description o)) : payment.forOrder o' = true ↔ o' = o := by
  rw [PeriodPayment.forOrder, decide_eq_true provider, text, Option.any_some, Bool.true_and, decide_eq_true_eq]
  constructor
  · exact fun other => orderMark_suffix (description_suffix row o) other
  · rintro rfl
    exact description_suffix row o'

theorem forOrder_other (provider : payment.provider ≠ .redsys) : payment.forOrder o = false := by
  rw [PeriodPayment.forOrder, decide_eq_false provider, Bool.false_and]

def PaymentsOfOrders (payments : Table SubscriptionPaymentId PeriodPayment)
    (orders : Table PlatformOrderId PlatformOrder) : Prop :=
  ∀ payment ∈ payments.values, ∀ o, payment.forOrder o = true → ∃ row, orders.find o = some row ∧
    payment.tenantId = row.tenantId ∧ payment.durationMonths = row.months ∧ payment.extendsPeriod = true

def PlatformRedsysDb.HasOrder (db : PlatformRedsysDb) (o : PlatformOrderId) (row : PlatformOrder) : Prop :=
  ∃ row', db.orders.find o = some row' ∧ row'.tenantId = row.tenantId ∧ row'.months = row.months

def PlatformRedsysDb.paid (db : PlatformRedsysDb) (o : PlatformOrderId) : ℕ :=
  if (db.orders.find o).any fun row => row.status = .paid then 1 else 0

/-! ### What a state keeps -/

structure PlatformRedsysDb.Sound (initial : TenantId → Instant) (db : PlatformRedsysDb) : Prop where
  orders : OrdersApart db.orders
  payments : PaymentsOfOrders db.books.payments db.orders
  balanced : db.books.Balanced initial fun _ => false
  approvals : ∀ o ∈ db.approvals, ∃ row, db.orders.find o = some row ∧ row.status = .paid

def AutoChargeRun.Ended (db : PlatformRedsysDb) (run : AutoChargeRun) : Prop := ∀ q ∈ run.left, q.2 ≤ db.clock

def PlatformRedsysCall.Known (db : PlatformRedsysDb) : PlatformRedsysCall → Prop
  | .claiming o row _ _ | .saving o row | .automating o row => db.HasOrder o row
  | .recording o row run => db.HasOrder o row ∧ ∀ r ∈ run, r.Ended db
  | .linking _ _ run | .alerting _ run => ∀ r ∈ run, r.Ended db
  | .attempting run => run.Ended db
  | .creating run tenantId periodEnd seen =>
    run.Ended db ∧ periodEnd ≤ db.clock ∧ seen ≤ (db.attempts tenantId periodEnd).length ∧
      ((db.attempts tenantId periodEnd).length = seen →
        ∀ row ∈ db.attempts tenantId periodEnd, row.status ≠ .charging)
  | .charging run o row | .answering run o row _ =>
    run.Ended db ∧ ∃ row', db.orders.find o = some row' ∧ row'.tenantId = row.tenantId ∧
      row'.months = row.months ∧ row'.auto = true
  | .paying args => args.provider ≠ .redsys
  | .redirecting _ | .disabling _ => True

structure RedsysGrows (db db' : PlatformRedsysDb) : Prop where
  orders : ∀ o row, db.orders.find o = some row → ∃ row', db'.orders.find o = some row' ∧
    row'.tenantId = row.tenantId ∧ row'.months = row.months ∧ row'.auto = row.auto
  attempts : AttemptsGrow db db'
  clock : db.clock ≤ db'.clock

theorem RedsysGrows.of_same (orders : db'.orders = db.orders) (clock : db.clock ≤ db'.clock) :
    RedsysGrows db db' :=
  ⟨fun _ row found => ⟨row, orders ▸ found, rfl, rfl, rfl⟩, .of_same orders, clock⟩

theorem RedsysGrows.trans (first : RedsysGrows db db') (second : RedsysGrows db' db'') : RedsysGrows db db'' := by
  refine ⟨fun o row found => ?_, first.attempts.trans second.attempts, first.clock.trans second.clock⟩
  obtain ⟨row', found', tenant', months', auto'⟩ := first.orders o row found
  obtain ⟨row'', found'', tenant, months, auto⟩ := second.orders o row' found'
  exact ⟨row'', found'', tenant.trans tenant', months.trans months', auto.trans auto'⟩

theorem RedsysGrows.hasOrder (grows : RedsysGrows db db') (has : db.HasOrder o row) : db'.HasOrder o row := by
  obtain ⟨row', found, tenant, months⟩ := has
  obtain ⟨row'', found', tenant', months', -⟩ := grows.orders o row' found
  exact ⟨row'', found', tenant'.trans tenant, months'.trans months⟩

theorem RedsysGrows.known (grows : RedsysGrows db db') (known : call.Known db) : call.Known db' := by
  have ended : ∀ run : AutoChargeRun, run.Ended db → run.Ended db' :=
    fun run ended q mem => (ended q mem).trans grows.clock
  cases call with
  | claiming | saving | automating => exact grows.hasOrder known
  | recording => exact ⟨grows.hasOrder known.1, fun r mem => ended r (known.2 r mem)⟩
  | linking | alerting => exact fun r mem => ended r (known r mem)
  | attempting => exact ended _ known
  | creating run tenantId periodEnd =>
    obtain ⟨left, past, atLeast, idle⟩ := known
    obtain ⟨more, idle'⟩ := grows.attempts tenantId periodEnd
    exact ⟨ended run left, past.trans grows.clock, atLeast.trans more,
      fun same => idle' (by omega) (idle (by omega))⟩
  | charging run o | answering run o =>
    obtain ⟨left, row', found, tenant, months, auto⟩ := known
    obtain ⟨row'', found', tenant', months', auto'⟩ := grows.orders o row' found
    exact ⟨ended run left, row'', found', tenant'.trans tenant, months'.trans months, auto'.trans auto⟩
  | paying => exact known
  | redirecting | disabling => trivial

theorem PaymentsOfOrders.kept {payments : Table SubscriptionPaymentId PeriodPayment}
    (held : PaymentsOfOrders payments db.orders) (grows : RedsysGrows db db') :
    PaymentsOfOrders payments db'.orders := by
  intro payment mem o own
  obtain ⟨row, found, tenant, months, extending⟩ := held payment mem o own
  obtain ⟨row', found', tenant', months', -⟩ := grows.orders o row found
  exact ⟨row', found', tenant.trans tenant'.symm, months.trans months'.symm, extending⟩

structure RedsysMoves (initial : TenantId → Instant) (db : PlatformRedsysDb) (call : PlatformRedsysCall)
    (db' : PlatformRedsysDb) (rest : Option PlatformRedsysCall) : Prop where
  sound : db'.Sound initial
  grows : RedsysGrows db db'
  goesOn : ∀ next, rest = some next → next.Known db'
  counted : ∀ o, db'.settled o + (rest.map (PlatformRedsysCall.settles o)).getD 0 + db.paid o =
    db.settled o + call.settles o + db'.paid o

/-! ### Steps on orders -/

theorem PlatformRedsysDb.Sound.of_same (sound : db.Sound initial) (books : db'.books = db.books)
    (orders : db'.orders = db.orders) (approvals : db'.approvals = db.approvals) : db'.Sound initial :=
  ⟨orders ▸ sound.orders, by rw [books, orders]; exact sound.payments, books ▸ sound.balanced,
    by rw [orders, approvals]; exact sound.approvals⟩

theorem redsysGrows_modify (keeps : ∀ row, db.orders.find o = some row → row.Keeps (f row))
    (same : ∀ row tenantId periodEnd, (f row).attempts tenantId periodEnd = row.attempts tenantId periodEnd) :
    RedsysGrows db { db with orders := db.orders.modify o f } := by
  refine ⟨fun o' row found => ?_, attemptsGrow_modify same (fun row found => (keeps row found).charging) rfl, le_rfl⟩
  exact Table.exists_find_modify found
    (fun own => ⟨(keeps row own).tenantId, (keeps row own).months, (keeps row own).auto⟩) ⟨rfl, rfl, rfl⟩

theorem PlatformRedsysDb.Sound.modify (sound : db.Sound initial)
    (keeps : ∀ row, db.orders.find o = some row → row.Keeps (f row))
    (same : ∀ row tenantId periodEnd, (f row).attempts tenantId periodEnd = row.attempts tenantId periodEnd) :
    PlatformRedsysDb.Sound initial { db with orders := db.orders.modify o f } := by
  refine ⟨sound.orders.kept fun o' row' there => ?_, sound.payments.kept (redsysGrows_modify keeps same),
    sound.balanced, fun o' mem => ?_⟩
  · rcases Table.find_modify_cases there with ⟨-, found⟩ | ⟨rfl, row, found, rfl⟩
    · exact ⟨row', found, .refl row'⟩
    · exact ⟨row, found, keeps row found⟩
  · obtain ⟨row, found, paid⟩ := sound.approvals o' mem
    exact Table.exists_find_modify found (fun own => (keeps row own).paid paid) paid

theorem answer_same (db : PlatformRedsysDb) (o : PlatformOrderId) (approved : Bool) :
    (db.answer o approved).books = db.books ∧ (db.answer o approved).orders = db.orders ∧
      (db.answer o approved).alerts = db.alerts ∧ (db.answer o approved).clock = db.clock := by
  rw [PlatformRedsysDb.answer]
  split <;> exact ⟨rfl, rfl, rfl, rfl⟩

theorem mem_answer {approved : Bool} (mem : o' ∈ (db.answer o approved).approvals) :
    (o' = o ∧ approved = true) ∨ o' ∈ db.approvals := by
  rw [PlatformRedsysDb.answer] at mem
  split at mem
  · rename_i positive
    rcases List.mem_cons.mp mem with rfl | mem
    · exact .inl ⟨rfl, positive⟩
    · exact .inr mem
  · exact .inr mem

theorem answer_late {approved : Bool} (sound : db.Sound initial)
    (paid : approved = true → ∃ row, db.orders.find o = some row ∧ row.status = .paid) :
    (db.answer o approved).Sound initial := by
  obtain ⟨books, orders, -, -⟩ := answer_same db o approved
  refine ⟨orders ▸ sound.orders, by rw [books, orders]; exact sound.payments, books ▸ sound.balanced,
    fun o' mem => ?_⟩
  rw [orders]
  rcases mem_answer mem with ⟨rfl, positive⟩ | before
  · exact paid positive
  · exact sound.approvals o' before

theorem settledStatus_ne (approved : Bool) : PlatformOrder.settledStatus approved ≠ .charging ∧
    PlatformOrder.settledStatus approved ≠ .pending ∧ PlatformOrder.settledStatus approved ≠ .replaced := by
  cases approved <;> decide

theorem answer_first (approved : Bool) (sound : db.Sound initial) (open_ : db.open statuses o = true)
    (unpaid : .paid ∉ statuses) (undenied : .failed ∉ statuses) :
    PlatformRedsysDb.Sound initial ((db.answer o approved).setStatus o (PlatformOrder.settledStatus approved)) ∧
      RedsysGrows db ((db.answer o approved).setStatus o (PlatformOrder.settledStatus approved)) ∧
      ∀ o', ((db.answer o approved).setStatus o (PlatformOrder.settledStatus approved)).settled o' = db.settled o' ∧
        ((db.answer o approved).setStatus o (PlatformOrder.settledStatus approved)).paid o' =
          db.paid o' + if approved = true ∧ o = o' then 1 else 0 := by
  obtain ⟨row, found, listed⟩ := (Option.any_eq_true _ _).mp open_
  rw [List.contains_iff_mem] at listed
  have notPaid : row.status ≠ .paid := fun paid => unpaid (paid ▸ listed)
  obtain ⟨notCharging, notPending, notReplaced⟩ := settledStatus_ne approved
  have keeps : ∀ row', db.orders.find o = some row' →
      row'.Keeps { row' with status := PlatformOrder.settledStatus approved } := by
    intro row' found'
    rw [found] at found'
    cases found'
    refine setStatus_keeps (fun auto _ => ?_) notCharging (fun paid => (notPaid paid).elim)
      fun _ => ⟨notPending, notReplaced⟩
    obtain ⟨pending, replaced⟩ := sound.orders.opened o row found auto
    cases status : row.status with
    | charging => rfl
    | pending => exact (pending status).elim
    | replaced => exact (replaced status).elim
    | paid => exact (notPaid status).elim
    | failed => exact (undenied (status ▸ listed)).elim
  obtain ⟨books, orders, alerts, clock⟩ := answer_same db o approved
  have grows := redsysGrows_modify keeps fun _ _ _ => rfl
  have kept := sound.modify keeps fun _ _ _ => rfl
  have there : (db.orders.modify o fun row => { row with status := PlatformOrder.settledStatus approved }).find o =
      some { row with status := PlatformOrder.settledStatus approved } := by
    rw [Table.find_modify_self, found]
    rfl
  have changed : ((db.answer o approved).setStatus o (PlatformOrder.settledStatus approved)).orders =
      db.orders.modify o fun row => { row with status := PlatformOrder.settledStatus approved } := by
    rw [PlatformRedsysDb.setStatus, orders]
  refine ⟨⟨?_, ?_, ?_, fun o' mem => ?_⟩, grows.trans (.of_same changed clock.ge), fun o' => ⟨?_, ?_⟩⟩
  · rw [changed]
    exact kept.orders
  · rw [changed]
    change PaymentsOfOrders (db.answer o approved).books.payments _
    rw [books]
    exact kept.payments
  · change (db.answer o approved).books.Balanced initial _
    rw [books]
    exact sound.balanced
  · rw [changed]
    rcases mem_answer mem with ⟨rfl, rfl⟩ | before
    · exact ⟨_, there, rfl⟩
    · exact kept.approvals o' before
  · change (db.answer o approved).books.payments.values.countP _ + (db.answer o approved).alerts.count o' = _
    rw [books, alerts]
    rfl
  · rw [PlatformRedsysDb.paid, PlatformRedsysDb.paid, changed]
    by_cases own : o' = o
    · rw [own, there, found, Option.any_some, Option.any_some, decide_eq_false notPaid]
      cases approved <;> simp [PlatformOrder.settledStatus]
    · have other : ¬(approved = true ∧ o = o') := fun both => own both.2.symm
      rw [Table.find_modify_ne _ own, if_neg other, add_zero]

theorem create_moves (sound : db.Sound initial) (new : db.orders.find o = none)
    (ended : row.auto = true → row.periodEnd ≤ row.createdAt)
    (opened : row.auto = true → row.status ≠ .pending ∧ row.status ≠ .replaced) (unpaid : row.status ≠ .paid)
    (free : row.live = true → ∀ o' row', db.orders.find o' = some row' → row'.live = true →
      row'.tenantId = row.tenantId → row'.periodEnd ≠ row.periodEnd) :
    (db.createOrder o row).Sound initial ∧ RedsysGrows db (db.createOrder o row) ∧
      ∀ o', (db.createOrder o row).paid o' = db.paid o' := by
  have others : ∀ o', o' ≠ o → (db.orders.upsert o row id).find o' = db.orders.find o' :=
    fun o' other => by rw [Table.find_upsert, if_neg other]
  have made : (db.orders.upsert o row id).find o = some row := by
    rw [Table.find_upsert_self, new]
    rfl
  have grows : RedsysGrows db (db.createOrder o row) := by
    refine ⟨fun o' row' found => ⟨row', ?_, rfl, rfl, rfl⟩, attemptsGrow_create new rfl, le_rfl⟩
    refine (others o' ?_).trans found
    rintro rfl
    rw [new] at found
    cases found
  refine ⟨⟨sound.orders.create new ended opened free, sound.payments.kept grows, sound.balanced,
    fun o' mem => ?_⟩, grows, fun o' => ?_⟩
  · obtain ⟨row', found, paid⟩ := sound.approvals o' mem
    refine ⟨row', (others o' ?_).trans found, paid⟩
    rintro rfl
    rw [new] at found
    cases found
  · rw [PlatformRedsysDb.paid, PlatformRedsysDb.paid]
    change (if ((db.orders.upsert o row id).find o').any _ then _ else _) = _
    by_cases own : o' = o
    · rw [own, made, new, Option.any_some, decide_eq_false unpaid]
      rfl
    · rw [others o' own]

theorem pendingOrder_found {q : PlatformOrderId × PlatformOrder} (latest : db.pendingOrder tenantId = some q) :
    db.orders.find q.1 = some q.2 ∧ q.2.status = .pending := by
  have mem := List.argmax_mem latest
  rw [List.mem_filter, Bool.and_eq_true, decide_eq_true_eq, decide_eq_true_eq] at mem
  exact ⟨Table.find_of_mem mem.1, mem.2.2⟩

theorem setStatus_paid (found : db.orders.find o = some row) (before : row.status ≠ .paid) (after : status ≠ .paid)
    (o' : PlatformOrderId) :
    (db.setStatus o status).paid o' = db.paid o' := by
  rw [PlatformRedsysDb.paid, PlatformRedsysDb.paid]
  change (if ((db.orders.modify o _).find o').any _ then _ else _) = _
  by_cases own : o' = o
  · rw [own, Table.find_modify_self, found, Option.map_some, Option.any_some, Option.any_some,
      decide_eq_false before, decide_eq_false after]
  · rw [Table.find_modify_ne _ own]

theorem redirect_moves {args : RedirectArgs} (sound : db.Sound initial) :
    (db.createRedirect args o now).Sound initial ∧ RedsysGrows db (db.createRedirect args o now) ∧
      ∀ o', (db.createRedirect args o now).settled o' = db.settled o' ∧
        (db.createRedirect args o now).paid o' = db.paid o' := by
  rw [PlatformRedsysDb.createRedirect]
  split
  · exact ⟨sound, .of_same rfl le_rfl, fun _ => ⟨rfl, rfl⟩⟩
  · rename_i unused
    rw [Bool.or_eq_true, not_or, Bool.not_eq_true (Option.isSome _), Option.isSome_eq_false_iff,
      Option.isNone_iff_eq_none] at unused
    have free : (args.order now).live = true → ∀ o' row', db.orders.find o' = some row' → row'.live = true →
        row'.tenantId = (args.order now).tenantId → row'.periodEnd ≠ (args.order now).periodEnd :=
      fun live => by cases live
    have manual : (args.order now).auto = true → False := fun auto => by cases auto
    have open_ : (args.order now).status ≠ .paid := fun paid => by cases paid
    split
    · rename_i q latest
      obtain ⟨found, pending⟩ := pendingOrder_found latest
      have notPaid : q.2.status ≠ .paid := by
        rw [pending]
        decide
      have keeps : ∀ row, db.orders.find q.1 = some row → row.Keeps { row with status := .replaced } := by
        intro row there
        rw [found] at there
        cases there
        refine setStatus_keeps (fun _ paid => by cases paid) (by decide) (fun paid => (notPaid paid).elim)
          fun auto => ?_
        exact ((sound.orders.opened q.1 q.2 found auto).1 pending).elim
      have replaced := sound.modify keeps fun _ _ _ => rfl
      have grows := redsysGrows_modify keeps fun _ _ _ => rfl
      have new : (db.setStatus q.1 .replaced).orders.find o = none := by
        refine (Table.find_modify_ne _ ?_ _).trans unused.2
        rintro rfl
        rw [unused.2] at found
        cases found
      have free' : (args.order now).live = true → ∀ o' row',
          (db.setStatus q.1 .replaced).orders.find o' = some row' → row'.live = true →
          row'.tenantId = (args.order now).tenantId → row'.periodEnd ≠ (args.order now).periodEnd :=
        fun live => by cases live
      obtain ⟨made, grows', paid⟩ := create_moves replaced new (fun auto => (manual auto).elim)
        (fun auto => (manual auto).elim) open_ free'
      exact ⟨made, grows.trans grows', fun o' => ⟨rfl,
        (paid o').trans (setStatus_paid found notPaid (by decide) o')⟩⟩
    · obtain ⟨made, grows, paid⟩ := create_moves sound unused.2 (fun auto => (manual auto).elim)
        (fun auto => (manual auto).elim) open_ free
      exact ⟨made, grows, fun o' => ⟨rfl, paid o'⟩⟩

/-! ### Payments -/

variable {books : PeriodBooks} {args : ManualPaymentArgs}

theorem pay_moves (sound : db.Sound initial) (provider : args.provider ≠ .redsys) :
    (db.pay args now).Sound initial ∧ ∀ o, (db.pay args now).settled o = db.settled o := by
  rw [PlatformRedsysDb.pay]
  cases made : db.books.recordManualPayment args now with
  | none => exact ⟨sound, fun _ => rfl⟩
  | some q =>
    obtain ⟨books, p⟩ := q
    have records : db.books.Records args now books p := recordManualPayment_records made
    have balanced := sound.balanced.record rfl records
    dsimp only
    cases records with
    | again => exact ⟨sound, fun _ => rfl⟩
    | new account found =>
      refine ⟨⟨sound.orders, fun payment mem o own => ?_, balanced, sound.approvals⟩, fun o => ?_⟩
      · rw [Table.values_push, List.mem_append, List.mem_singleton] at mem
        rcases mem with mem | rfl
        · exact sound.payments payment mem o own
        · rw [forOrder_other provider] at own
          cases own
      · rw [PlatformRedsysDb.settled, PlatformRedsysDb.settled, Table.values_push, List.countP_append,
          List.countP_singleton, forOrder_other provider]
        rfl

theorem record_moves (sound : db.Sound initial) (has : db.HasOrder o row) (unsettled : db.settled o = 0)
    (made : db.books.recordManualPayment (row.paymentArgs o) now = some (books, p)) :
    PlatformRedsysDb.Sound initial { db with books } ∧
      ∀ o', PlatformRedsysDb.settled { db with books } o' = db.settled o' + if o' = o then 1 else 0 := by
  have records : db.books.Records (row.paymentArgs o) now books p := recordManualPayment_records made
  have balanced := sound.balanced.record rfl records
  cases records with
  | again p payment there same =>
    simp only [PeriodPayment.repeats, Bool.and_eq_true, decide_eq_true_eq] at same
    have own : payment.forOrder o = true := (forOrder_iff same.1.1.1.1.2 same.1.1.2).mpr rfl
    have counted : 0 < db.books.payments.values.countP (PeriodPayment.forOrder o) :=
      List.countP_pos_iff.mpr ⟨payment, Table.mem_values_of_find there, own⟩
    rw [PlatformRedsysDb.settled] at unsettled
    omega
  | new account found =>
    refine ⟨⟨sound.orders, fun payment mem o' own => ?_, balanced, sound.approvals⟩, fun o' => ?_⟩
    · rw [Table.values_push, List.mem_append, List.mem_singleton] at mem
      rcases mem with mem | rfl
      · exact sound.payments payment mem o' own
      · obtain rfl := (forOrder_iff rfl rfl).mp own
        obtain ⟨row', there, tenant, months⟩ := has
        exact ⟨row', there, tenant.symm, months.symm, rfl⟩
    · rw [PlatformRedsysDb.settled, PlatformRedsysDb.settled, Table.values_push, List.countP_append,
        List.countP_singleton, add_right_comm]
      congr 1
      by_cases own : o' = o
      · rw [if_pos own, if_pos ((forOrder_iff rfl rfl).mpr own)]
      · rw [if_neg own, if_neg fun other => own ((forOrder_iff rfl rfl).mp other)]

theorem setMode_sound {before mode : BillingMode} (sound : db.Sound initial) :
    (db.setMode tenantId before mode).Sound initial := by
  refine ⟨sound.orders, sound.payments, fun other account there => ?_, sound.approvals⟩
  rcases Table.find_modify_cases there with ⟨-, found⟩ | ⟨rfl, account, found, rfl⟩
  · exact sound.balanced other account found
  · have reached := sound.balanced other account found
    split
    · exact reached
    · exact reached

/-! ### Steps -/

variable {run : AutoChargeRun} {back : Option AutoChargeRun} {approved : Bool}

theorem RedsysMoves.idle (sound : db'.Sound initial) (grows : RedsysGrows db db')
    (goesOn : ∀ next, rest = some next → next.Known db') (settled : ∀ o, db'.settled o = db.settled o)
    (paid : ∀ o, db'.paid o = db.paid o)
    (passes : ∀ o, (rest.map (PlatformRedsysCall.settles o)).getD 0 = call.settles o) :
    RedsysMoves initial db call db' rest :=
  ⟨sound, grows, goesOn, fun o => by rw [settled, paid, passes]⟩

theorem RedsysMoves.read (sound : db.Sound initial) (goesOn : ∀ next, rest = some next → next.Known db)
    (passes : ∀ o, (rest.map (PlatformRedsysCall.settles o)).getD 0 = call.settles o) :
    RedsysMoves initial db call db rest :=
  .idle sound (.of_same rfl le_rfl) goesOn (fun _ => rfl) (fun _ => rfl) passes

theorem backTo_known (ended : ∀ r ∈ back, r.Ended db) {next : PlatformRedsysCall}
    (goesOn : backTo back = some next) : next.Known db := by
  obtain ⟨r, mem, rfl⟩ := Option.map_eq_some_iff.mp goesOn
  exact ended r mem

theorem backTo_settles (back : Option AutoChargeRun) (o : PlatformOrderId) :
    ((backTo back).map (PlatformRedsysCall.settles o)).getD 0 = 0 := by
  cases back <;> rfl

theorem paid_of_late (found : db.orders.find o = some row) (closed : db.open statuses o ≠ true)
    (undenied : (db.orders.find o).any (fun row => row.status = .failed) ≠ true)
    (all : ∀ status, status ≠ .paid → status ≠ .failed → row.status = status → status ∈ statuses) :
    row.status = .paid := by
  by_contra unpaid
  rw [PlatformRedsysDb.open, found, Option.any_some, ne_eq, List.contains_iff_mem] at closed
  rw [found, Option.any_some, ne_eq, decide_eq_true_eq] at undenied
  exact closed (all row.status unpaid undenied rfl)

theorem claiming_moves {card : Bool} (sound : db.Sound initial) (known : db.HasOrder o row)
    (undenied : approved = true → (db.orders.find o).any (fun row => row.status = .failed) ≠ true)
    (made : stepPlatformRedsys db input (.claiming o row approved card) = (db', rest)) :
    RedsysMoves initial db (.claiming o row approved card) db' rest := by
  rw [stepPlatformRedsys] at made
  split at made
  · rename_i opened
    obtain ⟨kept, grows, counts⟩ := answer_first approved sound opened (by decide) (by decide)
    cases made
    refine ⟨kept, grows, fun next goesOn => ?_, fun o' => ?_⟩
    · have has := grows.hasOrder known
      split at goesOn
      · cases goesOn
      · split at goesOn <;> cases goesOn
        · exact has
        · exact ⟨has, fun _ mem => by cases mem⟩
    · rw [(counts o').1, (counts o').2]
      cases approved with
      | false => simp [PlatformRedsysCall.settles]
      | true =>
        by_cases own : o = o' <;> by_cases saves : (row.saveCard && card) = true <;>
          simp [PlatformRedsysCall.settles, own, saves] <;> omega
  · rename_i closed
    obtain ⟨row', found, -⟩ := known
    cases made
    obtain ⟨books, orders, alerts, clock⟩ := answer_same db o approved
    refine .idle (answer_late sound fun positive => ⟨row', found, ?_⟩) (.of_same orders clock.ge)
      goesOn_none (fun o' => ?_) (fun o' => ?_) fun _ => rfl
    · refine paid_of_late found closed (undenied positive) fun status paid failed _ => ?_
      cases status <;> simp_all
    · rw [PlatformRedsysDb.settled, books, alerts]
      rfl
    · rw [PlatformRedsysDb.paid, orders]
      rfl

theorem answering_moves (sound : db.Sound initial)
    (known : PlatformRedsysCall.Known db (.answering run o row approved))
    (undenied : approved = true → (db.orders.find o).any (fun row => row.status = .failed) ≠ true)
    (made : stepPlatformRedsys db input (.answering run o row approved) = (db', rest)) :
    RedsysMoves initial db (.answering run o row approved) db' rest := by
  obtain ⟨ended, row', found, tenant, months, auto⟩ := known
  rw [stepPlatformRedsys] at made
  split at made
  · rename_i opened
    obtain ⟨kept, grows, counts⟩ := answer_first approved sound opened (by decide) (by decide)
    cases made
    refine ⟨kept, grows, fun next goesOn => ?_, fun o' => ?_⟩
    · have later : ∀ q ∈ run.left, q.2 ≤ db.clock := ended
      have still : AutoChargeRun.Ended
          ((db.answer o approved).setStatus o (PlatformOrder.settledStatus approved)) run :=
        fun q mem => (later q mem).trans grows.clock
      split at goesOn <;> cases goesOn
      · refine ⟨grows.hasOrder ⟨row', found, tenant, months⟩, fun r mem => ?_⟩
        cases mem
        exact still
      · exact still
    · rw [(counts o').1, (counts o').2]
      cases approved with
      | false => simp [PlatformRedsysCall.settles]
      | true =>
        by_cases own : o = o' <;> simp [PlatformRedsysCall.settles, own]
        omega
  · rename_i closed
    cases made
    obtain ⟨books, orders, alerts, clock⟩ := answer_same db o approved
    refine .idle (answer_late sound fun positive => ⟨row', found, ?_⟩) (.of_same orders clock.ge)
      (fun next goesOn => ?_) (fun o' => ?_) (fun o' => ?_) fun _ => rfl
    · obtain ⟨pending, replaced⟩ := sound.orders.opened o row' found auto
      refine paid_of_late found closed (undenied positive) fun status paid failed own => ?_
      cases status <;> simp_all
    · cases goesOn
      exact fun q mem => (ended q mem).trans clock.ge
    · rw [PlatformRedsysDb.settled, books, alerts]
      rfl
    · rw [PlatformRedsysDb.paid, orders]
      rfl

theorem allowsAttempt_idle {attempts : List PlatformOrder} (allowed : allowsAttempt now attempts = true) :
    ∀ row ∈ attempts, row.status ≠ .charging := by
  simp only [allowsAttempt, Bool.and_eq_true, Bool.not_eq_true', List.any_eq_false, decide_eq_true_eq] at allowed
  exact allowed.1.1

variable (sound : db.Sound initial)
include sound

theorem attempting_moves (known : run.Ended db) (made : stepPlatformRedsys db input (.attempting run) = (db', rest)) :
    RedsysMoves initial db (.attempting run) db' rest := by
  obtain ⟨now, left⟩ := run
  cases left with
  | nil =>
    cases made
    exact .read sound goesOn_none fun _ => rfl
  | cons q left =>
    obtain ⟨tenantId, periodEnd⟩ := q
    have ended : AutoChargeRun.Ended db ⟨now, left⟩ := fun q mem => known q (List.mem_cons_of_mem _ mem)
    rw [stepPlatformRedsys] at made
    dsimp only at made
    split at made <;> cases made
    · rename_i allowed
      refine .read sound (fun next goesOn => ?_) fun _ => rfl
      cases goesOn
      exact ⟨ended, known (tenantId, periodEnd) List.mem_cons_self, le_rfl, fun _ => allowsAttempt_idle allowed⟩
    · refine .read sound (fun next goesOn => ?_) fun _ => rfl
      cases goesOn
      exact ended

theorem creating_moves {periodEnd : Instant} {seen : ℕ}
    (known : PlatformRedsysCall.Known db (.creating run tenantId periodEnd seen)) (clock : input.moment = db.clock)
    (fresh : (!db.cards.contains tenantId || input.amount ≤ 0 || (db.orders.find input.order).isSome ||
      ((db.attempts tenantId periodEnd).length = seen && db.orders.values.all fun row =>
        !(row.auto && row.tenantId = tenantId && row.periodEnd = periodEnd && row.status = .paid))) = true)
    (made : stepPlatformRedsys db input (.creating run tenantId periodEnd seen) = (db', rest)) :
    RedsysMoves initial db (.creating run tenantId periodEnd seen) db' rest := by
  obtain ⟨ended, past, -, idle⟩ := known
  rw [stepPlatformRedsys] at made
  split at made
  · cases made
    exact .read sound (fun next goesOn => by cases goesOn; exact ended) fun _ => rfl
  · rename_i charges
    split at made
    · cases made
      exact .read sound goesOn_none fun _ => rfl
    · rename_i unused
      cases made
      rw [Bool.eq_false_iff.mpr charges, Bool.eq_false_iff.mpr unused, Bool.or_self, Bool.false_or,
        Bool.and_eq_true, decide_eq_true_eq, List.all_eq_true] at fresh
      obtain ⟨same, unpaid⟩ := fresh
      rw [Option.isSome_iff_ne_none, not_not] at unused
      have free : ∀ o' row', db.orders.find o' = some row' → row'.live = true → row'.tenantId = tenantId →
          row'.periodEnd ≠ periodEnd := by
        intro o' row' found live tenant period
        rw [PlatformOrder.live, Bool.and_eq_true, Bool.or_eq_true, decide_eq_true_eq, decide_eq_true_eq] at live
        rcases live.2 with charging | paid
        · refine idle same row' (List.mem_map.mpr ⟨(o', row'), List.mem_filter.mpr ⟨Table.mem_of_find found, ?_⟩,
            rfl⟩) charging
          have later := sound.orders.ended o' row' found live.1
          have day : periodEnd - saasDayMs ≤ row'.createdAt :=
            (sub_le_self _ (by decide)).trans (period ▸ later)
          simp [PlatformOrder.attempts, tenant, live.1, day]
        · have none_ := unpaid row' (Table.mem_values_of_find found)
          simp [live.1, tenant, period, paid] at none_
      have charging : (autoOrder tenantId input.amount periodEnd input.moment).status = .charging := rfl
      have opened : (autoOrder tenantId input.amount periodEnd input.moment).status ≠ .pending ∧
          (autoOrder tenantId input.amount periodEnd input.moment).status ≠ .replaced ∧
          (autoOrder tenantId input.amount periodEnd input.moment).status ≠ .paid := by
        rw [charging]
        decide
      obtain ⟨kept, grows, paid⟩ := create_moves sound unused (fun _ => past.trans_eq clock.symm)
        (fun _ => ⟨opened.1, opened.2.1⟩) opened.2.2 fun _ => free
      refine .idle kept grows (fun next goesOn => ?_) (fun _ => rfl) paid fun _ => rfl
      cases goesOn
      refine ⟨fun q mem => (ended q mem).trans grows.clock, _, ?_, rfl, rfl, rfl⟩
      refine (Table.find_upsert_self db.orders input.order _ _).trans ?_
      rw [unused]
      rfl

theorem recording_moves (known : PlatformRedsysCall.Known db (.recording o row back)) (unsettled : db.settled o = 0)
    (alerted : input.statement = .throwsAfterwards →
      (db.books.recordManualPayment (row.paymentArgs o) input.moment).isNone = true)
    (made : stepPlatformRedsys db input (.recording o row back) = (db', rest)) :
    RedsysMoves initial db (.recording o row back) db' rest := by
  rw [stepPlatformRedsys] at made
  cases recorded : db.books.recordManualPayment (row.paymentArgs o) input.moment with
  | none =>
    rw [recorded] at made
    cases made
    refine .read sound (fun next goesOn => ?_) fun _ => rfl
    cases goesOn
    exact known.2
  | some q =>
    obtain ⟨books, p⟩ := q
    rw [recorded] at made
    have goes : input.statement ≠ .throwsAfterwards := by
      intro fails
      have none_ := alerted fails
      rw [recorded] at none_
      cases none_
    dsimp only at made
    rw [if_neg goes] at made
    cases made
    obtain ⟨kept, counts⟩ := record_moves sound known.1 unsettled recorded
    refine ⟨kept, .of_same rfl le_rfl, fun next goesOn => ?_, fun o' => ?_⟩
    · cases goesOn
      exact known.2
    · rw [counts]
      by_cases own : o' = o
      · simp [PlatformRedsysCall.settles, own, PlatformRedsysDb.paid]
      · simp [PlatformRedsysCall.settles, own, Ne.symm own, PlatformRedsysDb.paid]

theorem linking_moves (known : PlatformRedsysCall.Known db (.linking o p back))
    (linked : input.statement ≠ .throwsAfterwards)
    (made : stepPlatformRedsys db input (.linking o p back) = (db', rest)) :
    RedsysMoves initial db (.linking o p back) db' rest := by
  rw [stepPlatformRedsys, if_neg linked] at made
  cases made
  have keeps : ∀ row, db.orders.find o = some row → row.Keeps { row with paymentId := some p } :=
    fun row _ => ⟨rfl, rfl, rfl, rfl, rfl, id, id, id, fun _ => id⟩
  have grows := redsysGrows_modify keeps fun _ _ _ => rfl
  refine .idle (sound.modify keeps fun _ _ _ => rfl) grows
    (fun next goesOn => grows.known (backTo_known known goesOn)) (fun _ => rfl) (fun o' => ?_) (backTo_settles back)
  rw [PlatformRedsysDb.paid, PlatformRedsysDb.paid]
  change (if ((db.orders.modify o _).find o').any _ then _ else _) = _
  rw [Table.find_modify]
  split
  · cases db.orders.find o' <;> rfl
  · rfl

theorem alerting_moves (known : PlatformRedsysCall.Known db (.alerting o back))
    (made : stepPlatformRedsys db input (.alerting o back) = (db', rest)) :
    RedsysMoves initial db (.alerting o back) db' rest := by
  cases made
  have grows : RedsysGrows db { db with alerts := o :: db.alerts } := .of_same rfl le_rfl
  refine ⟨sound.of_same rfl rfl rfl, grows, fun next goesOn => grows.known (backTo_known known goesOn),
    fun o' => ?_⟩
  rw [backTo_settles]
  by_cases own : o = o'
  · simp [PlatformRedsysDb.settled, PlatformRedsysCall.settles, PlatformRedsysDb.paid, own]
    omega
  · simp [PlatformRedsysDb.settled, PlatformRedsysCall.settles, PlatformRedsysDb.paid, own]

def PlatformRedsysCall.Unsettled (db : PlatformRedsysDb) (call : PlatformRedsysCall) : Prop :=
  ∀ o, call.settles o = 1 → db.settled o = 0

theorem stepPlatformRedsys_moves (known : call.Known db) (unsettled : call.Unsettled db)
    (clock : input.moment = db.clock) (inTurn : redsysInTurn db call input = true)
    (running : input.statement = .succeeds ∨ input.statement = .throwsAfterwards)
    (made : stepPlatformRedsys db input call = (db', rest)) : RedsysMoves initial db call db' rest := by
  obtain ⟨moment, statement, order, amount, answered⟩ := input
  cases call with
  | redirecting args =>
    cases made
    obtain ⟨kept, grows, counts⟩ := redirect_moves sound
    exact .idle kept grows goesOn_none (fun o => (counts o).1) (fun o => (counts o).2) fun _ => rfl
  | claiming o row approved card =>
    have undenied : (!approved || !(db.orders.find o).any fun row => row.status = .failed) = true := by
      rcases running with rfl | rfl <;> exact inTurn
    refine claiming_moves sound known (fun positive denied => ?_) made
    rw [positive, denied] at undenied
    cases undenied
  | saving o row =>
    cases made
    have grows : RedsysGrows db { db with cards := row.tenantId :: db.cards } := .of_same rfl le_rfl
    exact .idle (sound.of_same rfl rfl rfl) grows
      (fun next goesOn => by cases goesOn; exact grows.hasOrder known) (fun _ => rfl) (fun _ => rfl) fun _ => rfl
  | automating o row =>
    cases made
    have grows : RedsysGrows db (db.setMode row.tenantId .manual .redsys) := .of_same rfl le_rfl
    refine .idle (setMode_sound sound) grows (fun next goesOn => ?_) (fun _ => rfl) (fun _ => rfl) fun _ => rfl
    cases goesOn
    exact ⟨grows.hasOrder known, fun _ mem => by cases mem⟩
  | recording o row back =>
    refine recording_moves sound known (unsettled o (if_pos rfl)) (fun fails => ?_) made
    cases fails
    exact inTurn
  | linking o p back =>
    refine linking_moves sound known (fun fails => ?_) made
    cases fails
    cases inTurn
  | alerting o back => exact alerting_moves sound known made
  | attempting run => exact attempting_moves sound known made
  | creating run tenantId periodEnd seen =>
    refine creating_moves sound known clock ?_ made
    rcases running with rfl | rfl <;> exact inTurn
  | charging run o row =>
    obtain ⟨ended, has⟩ := known
    cases made
    refine .read sound (fun next goesOn => ?_) fun _ => ?_
    · dsimp only at goesOn
      split at goesOn <;> cases goesOn
      · exact ended
      · exact ⟨ended, has⟩
    · dsimp only
      split <;> rfl
  | answering run o row approved =>
    have undenied : (!approved || !(db.orders.find o).any fun row => row.status = .failed) = true := by
      rcases running with rfl | rfl <;> exact inTurn
    refine answering_moves sound known (fun positive denied => ?_) made
    rw [positive, denied] at undenied
    cases undenied
  | disabling tenantId =>
    cases made
    have without : PlatformRedsysDb.Sound initial { db with cards := db.cards.filter (· ≠ tenantId) } :=
      sound.of_same rfl rfl rfl
    exact .idle (setMode_sound without) (.of_same rfl le_rfl) goesOn_none (fun _ => rfl) (fun _ => rfl) fun _ => rfl
  | paying args =>
    cases made
    have moves : (db.pay args moment).Sound initial ∧ ∀ o, (db.pay args moment).settled o = db.settled o :=
      pay_moves sound known
    obtain ⟨kept, counts⟩ := moves
    have same : (db.pay args moment).orders = db.orders ∧ db.clock ≤ (db.pay args moment).clock := by
      rw [PlatformRedsysDb.pay]
      split <;> exact ⟨rfl, le_rfl⟩
    refine .idle kept (.of_same same.1 same.2) goesOn_none counts (fun o => ?_) fun _ => rfl
    rw [PlatformRedsysDb.paid, same.1]
    rfl

theorem throwPlatformRedsys_moves (known : call.Known db) (inTurn : redsysInTurn db call input = true)
    (throws : input.statement = .throws) : RedsysMoves initial db call db (throwPlatformRedsys call) := by
  obtain ⟨moment, statement, order, amount, answered⟩ := input
  cases throws
  cases call with
  | saving o row | automating o row =>
    exact .read sound (fun next goesOn => by cases goesOn; exact ⟨known, fun _ mem => by cases mem⟩) fun _ => rfl
  | recording o row back =>
    exact .read sound (fun next goesOn => by cases goesOn; exact known.2) fun _ => rfl
  | linking | alerting => cases inTurn
  | _ => exact .read sound goesOn_none fun _ => rfl

theorem stopPlatformRedsys_moves (inTurn : redsysInTurn db call input = true) (stops : input.statement = .stops) :
    RedsysMoves initial db call db none := by
  obtain ⟨moment, statement, order, amount, answered⟩ := input
  cases stops
  cases call with
  | saving | automating | recording | alerting => cases inTurn
  | _ => exact .read sound goesOn_none fun _ => rfl

omit sound

theorem redsysInTurn_clock (moment : Instant) :
    redsysInTurn { db with clock := moment } call input = redsysInTurn db call input := by
  obtain ⟨now, statement, order, amount, answered⟩ := input
  cases statement <;> cases call <;> rfl

theorem nextPlatformRedsys_moves (sound : db.Sound initial) (known : call.Known db) (unsettled : call.Unsettled db)
    (inTurn : redsysInTurn db call input = true)
    (made : nextPlatformRedsys db call input = some (db', rest)) : RedsysMoves initial db call db' rest := by
  rw [nextPlatformRedsys] at made
  split at made
  · cases made
  · rename_i order
    have later : db.clock ≤ input.moment := not_lt.mp order
    have grows : RedsysGrows db { db with clock := input.moment } := .of_same rfl later
    have sound' : PlatformRedsysDb.Sound initial { db with clock := input.moment } := sound.of_same rfl rfl rfl
    have known' := grows.known known
    have inTurn' : redsysInTurn { db with clock := input.moment } call input = true :=
      (redsysInTurn_clock input.moment).trans inTurn
    have moves : RedsysMoves initial { db with clock := input.moment } call db' rest := by
      dsimp only at made
      split at made
      · rename_i throws
        cases made
        exact throwPlatformRedsys_moves sound' known' inTurn' throws
      · rename_i stops
        cases made
        exact stopPlatformRedsys_moves sound' inTurn' stops
      · rename_i succeeds
        exact stepPlatformRedsys_moves sound' known' unsettled rfl inTurn' (.inl succeeds) (Option.some.inj made)
      · rename_i fails
        exact stepPlatformRedsys_moves sound' known' unsettled rfl inTurn' (.inr fails) (Option.some.inj made)
    exact ⟨moves.sound, grows.trans moves.grows, moves.goesOn, moves.counted⟩

/-! ### Runs -/

variable {t : State PlatformRedsysDb PlatformRedsysCall} {accounts : Table TenantId SaasAccount}
  {cards : List TenantId} {clock : Instant}

theorem enterPlatformRedsys_known {request : PlatformRedsysRequest}
    (entered : enterPlatformRedsys db request = some call) : call.Known db ∧ ∀ o, call.settles o = 0 := by
  cases request with
  | createRedirect args =>
    rw [enterPlatformRedsys] at entered
    split at entered <;> cases entered
    exact ⟨trivial, fun _ => rfl⟩
  | handleNotification o approved card =>
    obtain ⟨row, found, rfl⟩ := Option.map_eq_some_iff.mp entered
    exact ⟨⟨row, found, rfl, rfl⟩, fun _ => rfl⟩
  | runAutoCharges =>
    cases entered
    refine ⟨fun q mem => ?_, fun _ => rfl⟩
    obtain ⟨account, selected, rfl⟩ := List.mem_map.mp mem
    have chargeable := (List.mem_filter.mp selected).2
    simp only [PlatformRedsysDb.chargeable, Bool.and_eq_true, decide_eq_true_eq] at chargeable
    exact chargeable.1.1.1.1.2
  | disableAutoCharge =>
    cases entered
    exact ⟨trivial, fun _ => rfl⟩
  | recordManualPayment args =>
    rw [enterPlatformRedsys] at entered
    split at entered
    · rename_i allowed
      cases entered
      rw [Bool.and_eq_true, decide_eq_true_eq] at allowed
      exact ⟨allowed.1, fun _ => rfl⟩
    · cases entered

structure ApprovedOnce (initial : TenantId → Instant) (t : State PlatformRedsysDb PlatformRedsysCall) : Prop where
  sound : t.db.Sound initial
  known : ∀ call ∈ t.running, call.Known t.db
  counted : ∀ o, t.db.settled o + (t.running.map (PlatformRedsysCall.settles o)).sum = t.db.paid o

theorem paid_le (db : PlatformRedsysDb) (o : PlatformOrderId) : db.paid o ≤ 1 := by
  rw [PlatformRedsysDb.paid]
  split <;> omega

theorem approvedOnce_next {running : List PlatformRedsysCall} {i : ℕ}
    (once : ApprovedOnce initial ⟨db, running⟩) (inTurn : redsysInTurn db call input = true)
    (found : running[i]? = some call) (made : nextPlatformRedsys db call input = some (db', rest)) :
    ApprovedOnce initial ⟨db', resume running i rest⟩ := by
  have mem := List.mem_of_getElem? found
  have unsettled : call.Unsettled db := by
    intro o own
    have counted : db.settled o + (running.map (PlatformRedsysCall.settles o)).sum = db.paid o := once.counted o
    have atMost := paid_le db o
    have part : call.settles o ≤ (running.map (PlatformRedsysCall.settles o)).sum :=
      List.single_le_sum (fun _ _ => Nat.zero_le _) _ (List.mem_map_of_mem mem)
    omega
  have moves := nextPlatformRedsys_moves once.sound (once.known call mem) unsettled inTurn made
  refine ⟨moves.sound, fun call' mem' => ?_, fun o => ?_⟩
  · rcases mem_resume mem' with before | next
    · exact moves.grows.known (once.known call' before)
    · exact moves.goesOn call' next
  · have resumed := sum_resume (PlatformRedsysCall.settles o) found rest
    have counted : db.settled o + (running.map (PlatformRedsysCall.settles o)).sum = db.paid o := once.counted o
    have moved : db'.settled o + (rest.map (PlatformRedsysCall.settles o)).getD 0 + db.paid o =
      db.settled o + call.settles o + db'.paid o := moves.counted o
    change db'.settled o + ((resume running i rest).map (PlatformRedsysCall.settles o)).sum = db'.paid o
    omega

theorem opening_approvedOnce :
    ApprovedOnce (initialEnd accounts) ⟨.opening accounts cards clock, []⟩ where
  sound := by
    refine ⟨⟨fun _ _ _ _ there => (Option.some_ne_none _ there.symm).elim,
      fun _ _ there => (Option.some_ne_none _ there.symm).elim,
      fun _ _ there => (Option.some_ne_none _ there.symm).elim⟩,
      fun _ mem => (List.not_mem_nil mem).elim, fun tenantId account there => ?_,
      fun _ mem => (List.not_mem_nil mem).elim⟩
    have stored : accounts.find tenantId = some account := there
    change account.subscription.currentPeriodEnd = initialEnd accounts tenantId
    rw [initialEnd, stored]
    rfl
  known _ mem := (List.not_mem_nil mem).elim
  counted _ := rfl

/-- Each order approved has one payment or one alert, or is about to; the payment of an order adds its months,
the period of each tenant is the sum of the months of its payments, and no period has two automatic charges in
flight or approved. -/
theorem platform_approved_once
    (run : Run platformRedsysSystem.step
      (System.admits fun db call input => redsysInTurn db call input = true)
      ⟨.opening accounts cards clock, []⟩ t) :
    (∀ o ∈ t.db.approvals, t.db.settled o + (t.running.map (PlatformRedsysCall.settles o)).sum = 1) ∧
      PaymentsOfOrders t.db.books.payments t.db.orders ∧
      (∀ tenantId account, t.db.books.accounts.find tenantId = some account →
        account.subscription.currentPeriodEnd =
          replay (initialEnd accounts tenantId) (t.db.books.monthsPaid (fun _ => false) tenantId)) ∧
      ∀ o row o' row', t.db.orders.find o = some row → t.db.orders.find o' = some row' → row.live = true →
        row'.live = true → row'.tenantId = row.tenantId → row'.periodEnd = row.periodEnd → o' = o := by
  have inTurn : Run platformRedsysSystem.step
      (System.admitsIn fun x call input => redsysInTurn x.db call input = true)
      ⟨.opening accounts cards clock, []⟩ t := run.mono fun x a fits => by cases a <;> exact fits
  have once : ApprovedOnce (initialEnd accounts) t := by
    refine System.invariant_in inTurn opening_approvedOnce (fun once entered => ?_)
      fun once fits found made => approvedOnce_next once fits found made
    obtain ⟨known, idle⟩ := enterPlatformRedsys_known entered
    refine ⟨once.sound, fun call mem => ?_, fun o => ?_⟩
    · rcases List.mem_append.mp mem with mem | mem
      · exact once.known call mem
      · rw [List.mem_singleton.mp mem]
        exact known
    · rw [← once.counted o, List.map_append, List.sum_append, List.map_singleton, List.sum_singleton, idle o]
      rfl
  refine ⟨fun o mem => ?_, once.sound.payments, once.sound.balanced, once.sound.orders.apart⟩
  obtain ⟨row, found, paid⟩ := once.sound.approvals o mem
  rw [once.counted o, PlatformRedsysDb.paid, found, Option.any_some, decide_eq_true paid]
  rfl

/-! ### Orders of one tenant -/

def redsysDay : Instant := 20000 * saasDayMs

def dueAccounts (mode : BillingMode) : Table TenantId SaasAccount :=
  Table.empty.push
    { subscription := ⟨.active, mode, none, redsysDay - 31 * saasDayMs, redsysDay, 0, 4900⟩
      tenant := ⟨.active, false, none, false, none, none⟩ }

def orderA : PlatformOrderId := ⟨"1000aaaaaaaa", by decide⟩

def orderB : PlatformOrderId := ⟨"2000bbbbbbbb", by decide⟩

def orderC : PlatformOrderId := ⟨"3000cccccccc", by decide⟩

def redsysAt (day : ℤ) (order : PlatformOrderId) (approved : Option Bool) : PlatformRedsysInput :=
  ⟨redsysDay + day * saasDayMs, .succeeds, order, 4900, approved⟩

def redsysRequest (request : PlatformRedsysRequest) (steps : ℕ) (day : ℤ) (order : PlatformOrderId)
    (approved : Option Bool) : List (Action PlatformRedsysRequest PlatformRedsysInput) :=
  .start request :: List.replicate steps (.advance 0 (redsysAt day order approved))

/-- An order that is approved after it was replaced, and an automatic charge that a notice approves. -/
def replacedAndCharged : List (Action PlatformRedsysRequest PlatformRedsysInput) :=
  redsysRequest (.createRedirect ⟨0, 4900, some .card, true, 1⟩) 1 0 orderA none ++
    redsysRequest (.createRedirect ⟨0, 4900, some .card, true, 2⟩) 1 0 orderB none ++
    redsysRequest (.handleNotification orderA true true) 5 1 orderA none ++
    redsysRequest (.handleNotification orderB false false) 1 40 orderB none ++
    redsysRequest .runAutoCharges 4 40 orderC none ++
    redsysRequest (.handleNotification orderC true false) 3 41 orderC none

theorem platform_approved_once_charged : ∃ t : State PlatformRedsysDb PlatformRedsysCall,
    (t.db.approvals = [orderC, orderA] ∧ t.db.alerts = [] ∧ t.running.length = 0 ∧
      t.db.books.payments.values.map (·.durationMonths) = [1, 1]) ∧
      (∀ o ∈ t.db.approvals, t.db.settled o + (t.running.map (PlatformRedsysCall.settles o)).sum = 1) ∧
      PaymentsOfOrders t.db.books.payments t.db.orders ∧
      (∀ tenantId account, t.db.books.accounts.find tenantId = some account →
        account.subscription.currentPeriodEnd =
          replay (initialEnd (dueAccounts .manual) tenantId) (t.db.books.monthsPaid (fun _ => false) tenantId)) ∧
      ∀ o row o' row', t.db.orders.find o = some row → t.db.orders.find o' = some row' → row.live = true →
        row'.live = true → row'.tenantId = row.tenantId → row'.periodEnd = row.periodEnd → o' = o := by
  obtain ⟨t, run, paid⟩ := Run.exists_of_exec platformRedsysSystem.step
    (System.admits fun db call input => redsysInTurn db call input = true)
    ⟨.opening (dueAccounts .manual) [] redsysDay, []⟩ replacedAndCharged
    (fun t => t.db.approvals = [orderC, orderA] ∧ t.db.alerts = [] ∧ t.running.length = 0 ∧
      t.db.books.payments.values.map (·.durationMonths) = [1, 1]) (by decide +kernel)
  exact ⟨t, of_decide_eq_true paid, platform_approved_once run⟩

/-- The payment of an automatic charge cannot be recorded, and three days later the period is charged again. -/
def unappliedAndCharged : List (Action PlatformRedsysRequest PlatformRedsysInput) :=
  redsysRequest .runAutoCharges 4 1 orderA (some true) ++
    [.advance 0 { redsysAt 1 orderA none with statement := .throws }, .advance 0 (redsysAt 1 orderA none),
      .advance 0 (redsysAt 1 orderA none)] ++
    redsysRequest (.handleNotification orderA true false) 1 4 orderA none ++
    redsysRequest .runAutoCharges 2 4 orderB none

/-- An order that is denied and then approved is neither paid nor alerted, and a period whose payment could not
be recorded is charged twice. -/
theorem platform_approved_lost :
    ¬(∀ t, Reaches platformRedsysSystem.step ⟨.opening (dueAccounts .manual) [] redsysDay, []⟩ t →
      ∀ o ∈ t.db.approvals, t.db.settled o + (t.running.map (PlatformRedsysCall.settles o)).sum = 1) ∧
    ¬(∀ t, Reaches platformRedsysSystem.step ⟨.opening (dueAccounts .redsys) [0] redsysDay, []⟩ t →
      ∀ o row o' row', t.db.orders.find o = some row → t.db.orders.find o' = some row' → row.live = true →
        row'.live = true → row'.tenantId = row.tenantId → row'.periodEnd = row.periodEnd → o' = o) := by
  refine ⟨fun all => ?_, fun all => ?_⟩
  · obtain ⟨t, run, lost⟩ := Run.exists_of_exec platformRedsysSystem.step (fun _ _ => True)
      ⟨.opening (dueAccounts .manual) [] redsysDay, []⟩
      (redsysRequest (.createRedirect ⟨0, 4900, some .card, false, 1⟩) 1 0 orderA none ++
        redsysRequest (.handleNotification orderA false false) 1 1 orderA none ++
        redsysRequest (.handleNotification orderA true false) 1 2 orderA none)
      (fun t => orderA ∈ t.db.approvals ∧
        t.db.settled orderA + (t.running.map (PlatformRedsysCall.settles orderA)).sum = 0) (by decide +kernel)
    obtain ⟨mem, none_⟩ := of_decide_eq_true lost
    have once := all t run orderA mem
    rw [none_] at once
    cases once
  · obtain ⟨t, run, twice⟩ := Run.exists_of_exec platformRedsysSystem.step (fun _ _ => True)
      ⟨.opening (dueAccounts .redsys) [0] redsysDay, []⟩ unappliedAndCharged
      (fun t => (t.db.orders.find orderA).any fun row => (t.db.orders.find orderB).any fun row' =>
        row.live && row'.live && row'.tenantId = row.tenantId && row'.periodEnd = row.periodEnd) (by decide +kernel)
    obtain ⟨row, found, twice⟩ := (Option.any_eq_true _ _).mp twice
    obtain ⟨row', found', same⟩ := (Option.any_eq_true _ _).mp twice
    simp only [Bool.and_eq_true, decide_eq_true_eq] at same
    have one := all t run orderA row orderB row' found found' same.1.1.1 same.1.1.2 same.1.2 same.2
    exact absurd one (by decide)

end StorageOS
