import Mathlib.Algebra.Order.BigOperators.Group.List
import StorageOS.Integrations.Webhooks

/-! Every webhook gets one delivery of an event, a delivery delivered stays so, a pending one has a job, and nothing
is sent to a revoked webhook, in the runs where nothing throws in between and no delivery is retried twice at once. -/

namespace StorageOS

open Transition Processes

variable {db db' : WebhookDb} {call : WebhookCall} {rest : Option WebhookCall} {input : WebhookInput}
  {k id : DeliveryId} {job : DeliverJob}

def webhookInTurn (db : WebhookDb) : WebhookCall → WebhookInput → Bool
  -- A dispatch does not throw, nor does a retry before it queues its job.
  | .dispatching .., .throws | .enqueueing .., .throws | .requeueing _, .throws => false
  -- Neither does the last attempt of a job.
  | .attempting job, .throws | .sending job _, .throws | .marking job _, .throws =>
    job.attemptsMade + 1 < maxAttempts
  -- The delivery retried is still failed.
  | .retrying id, .proceed _ => (db.deliveries.find id).any fun row => row.status = .failed
  -- The webhook of the request is not revoked.
  | .sending _ webhookId, .proceed outcome =>
    outcome = .blocked || !(db.webhooks.find webhookId).any fun hook => hook.revokedAt.isSome
  | _, _ => true

/-! ### Jobs -/

def DeliverJob.carries (k : DeliveryId) (job : DeliverJob) : ℕ := if job.deliveryId = k then 1 else 0

/-- A request that runs a job of the delivery, or is about to queue one. -/
def WebhookCall.carries (k : DeliveryId) : WebhookCall → ℕ
  | .enqueueing _ _ _ _ id | .requeueing id => if id = k then 1 else 0
  | .attempting job | .sending job _ | .marking job _ => job.carries k
  | _ => 0

def WebhookDb.pending (db : WebhookDb) (k : DeliveryId) : ℕ :=
  if (db.deliveries.find k).any fun row => row.status = .pending then 1 else 0

def WebhookDb.queued (db : WebhookDb) (k : DeliveryId) : ℕ := (db.jobs.map (DeliverJob.carries k)).sum

theorem queued_append (k : DeliveryId) (job : DeliverJob) :
    WebhookDb.queued { db with jobs := db.jobs ++ [job] } k = db.queued k + job.carries k := by
  simp [WebhookDb.queued]

theorem queued_erase (k : DeliveryId) (mem : job ∈ db.jobs) :
    WebhookDb.queued { db with jobs := db.jobs.erase job } k + job.carries k = db.queued k := by
  rw [add_comm]
  exact List.sum_map_erase _ mem

theorem pending_mark (status : DeliveryStatus) (attempts : ℕ) (k : DeliveryId) :
    (db.mark id status attempts).pending k =
      if k = id then if (db.deliveries.find id).isSome && status = .pending then 1 else 0
      else db.pending k := by
  rw [WebhookDb.pending, WebhookDb.mark]
  dsimp only
  rw [Table.find_modify]
  by_cases own : k = id
  · rw [if_pos own, if_pos own, own]
    cases db.deliveries.find id <;> simp
  · rw [if_neg own, if_neg own, WebhookDb.pending]

theorem queued_rerun (again : job.attemptsMade + 1 < maxAttempts) (k : DeliveryId) :
    (db.rerun job).queued k = db.queued k + job.carries k := by
  rw [WebhookDb.rerun, if_pos again, queued_append]
  rfl

theorem pending_rerun (k : DeliveryId) : (db.rerun job).pending k = db.pending k := by
  rw [WebhookDb.rerun]
  split <;> rfl

/-- A pending delivery has one job, waiting, run or about to be queued, and another has none. -/
def JobOfPending (db : WebhookDb) (running : List WebhookCall) : Prop :=
  ∀ k, db.queued k + (running.map (WebhookCall.carries k)).sum = db.pending k

variable {row : WebhookDelivery} {running : List WebhookCall}

theorem pending_of_found (found : db.deliveries.find k = some row) :
    db.pending k = if row.status = .pending then 1 else 0 := by
  rw [WebhookDb.pending, found, Option.any_some]
  simp

theorem row_of_job (held : ∀ k, job.carries k ≤ db.pending k) :
    ∃ row, db.deliveries.find job.deliveryId = some row ∧ row.status = .pending := by
  have own := held job.deliveryId
  rw [DeliverJob.carries, if_pos rfl, WebhookDb.pending] at own
  split at own
  · rename_i pending
    obtain ⟨row, found, status⟩ := (Option.any_eq_true _ _).mp pending
    exact ⟨row, found, of_decide_eq_true status⟩
  · omega

def Carried (db db' : WebhookDb) (call : WebhookCall) (rest : Option WebhookCall) : Prop :=
  ∀ k, db'.queued k + (rest.map (WebhookCall.carries k)).getD 0 + db.pending k =
    db.queued k + call.carries k + db'.pending k

variable {outcome : SendOutcome}

theorem dispatching_carried {hooks left : List WebhookId} {eventType : WebhookEventType} {created : List DeliveryId}
    (made : stepWebhook db outcome (.dispatching hooks eventType left created) = (db', rest)) :
    Carried db db' (.dispatching hooks eventType left created) rest := by
  intro k
  cases left with
  | nil =>
    cases made
    exact add_right_comm _ _ _
  | cons hook left =>
    cases made
    have added : WebhookDb.pending
        { db with deliveries := db.deliveries.push ⟨hook, eventType, .pending, 0⟩ } k =
          db.pending k + if db.deliveries.nextKey = k then 1 else 0 := by
      by_cases own : db.deliveries.nextKey = k
      · subst own
        simp [WebhookDb.pending, Table.find_push, Table.find_nextKey]
      · simp [WebhookDb.pending, Table.find_push, own, Ne.symm own]
    rw [added]
    exact (add_assoc _ _ _).trans (congrArg (_ + ·) (add_comm _ _))

theorem marking_carried {input outcome : SendOutcome} (held : ∀ k, job.carries k ≤ db.pending k)
    (made : stepWebhook db input (.marking job outcome) = (db', rest)) :
    Carried db db' (.marking job outcome) rest := by
  obtain ⟨row, found, status⟩ := row_of_job held
  have before := pending_of_found found
  rw [if_pos status] at before
  intro k
  have own : ∀ status attempts k, (db.mark job.deliveryId status attempts).pending k =
      if k = job.deliveryId then if status = .pending then 1 else 0 else db.pending k := by
    intro status attempts k
    rw [pending_mark, found]
    simp
  have settled : ∀ status attempts, status ≠ DeliveryStatus.pending →
      (db.mark job.deliveryId status attempts).queued k + 0 + db.pending k =
        db.queued k + job.carries k + (db.mark job.deliveryId status attempts).pending k := by
    intro status attempts done
    rw [own, if_neg done, DeliverJob.carries]
    change db.queued k + 0 + _ = _
    by_cases same : k = job.deliveryId
    · subst same
      rw [before, if_pos rfl, if_pos rfl]
    · rw [if_neg same, if_neg (Ne.symm same)]
  rw [stepWebhook] at made
  dsimp only at made
  split at made
  · cases made
    exact settled .success _ (by decide)
  · cases final : outcome.isFinal (job.attemptsMade + 1)
    · rw [final, if_neg Bool.false_ne_true] at made
      cases made
      have again : job.attemptsMade + 1 < maxAttempts := by
        rw [SendOutcome.isFinal, Bool.or_eq_false_iff, decide_eq_false_iff_not] at final
        exact not_le.mp (of_decide_eq_false final.2)
      rw [queued_rerun again, pending_rerun, markDeliveryAttempt, if_neg Bool.false_ne_true, own]
      change db.queued k + job.carries k + 0 + _ = db.queued k + job.carries k + _
      by_cases same : k = job.deliveryId
      · subst same
        rw [before, if_pos rfl]
        rfl
      · rw [if_neg same]
        rfl
    · rw [final, if_pos rfl] at made
      cases made
      exact settled .failed _ (by decide)

theorem retrying_carried (inTurn : (db.deliveries.find id).any (fun row => row.status = .failed) = true)
    (made : stepWebhook db outcome (.retrying id) = (db', rest)) :
    Carried db db' (.retrying id) rest := by
  obtain ⟨row, found, failed⟩ := (Option.any_eq_true _ _).mp inTurn
  have before := pending_of_found found
  rw [of_decide_eq_true failed, if_neg (by decide)] at before
  cases made
  intro k
  rw [pending_mark, found]
  change db.queued k + (if id = k then 1 else 0) + _ = db.queued k + 0 + _
  by_cases same : k = id
  · subst same
    rw [before]
    simp
  · rw [if_neg same, if_neg (Ne.symm same)]

theorem stepWebhook_carried (held : ∀ k, call.carries k ≤ db.pending k)
    (inTurn : webhookInTurn db call (.proceed outcome) = true) (made : stepWebhook db outcome call = (db', rest)) :
    Carried db db' call rest := by
  cases call with
  | dispatching => exact dispatching_carried made
  | enqueueing =>
    cases made
    intro k
    rw [queued_append]
    rfl
  | taking job =>
    rw [stepWebhook] at made
    split at made
    · rename_i mem
      cases made
      intro k
      rw [← queued_erase k mem]
      rfl
    · cases made
      exact fun k => rfl
  | attempting job =>
    obtain ⟨row, found, status⟩ := row_of_job held
    rw [stepWebhook, found, Option.bind_some, if_neg (by rw [status]; decide)] at made
    cases made
    exact fun k => rfl
  | sending job webhookId =>
    cases made
    intro k
    rw [WebhookDb.send]
    split <;> rfl
  | marking => exact marking_carried held made
  | retrying => exact retrying_carried inTurn made
  | requeueing =>
    cases made
    intro k
    rw [queued_append]
    rfl
  | changing =>
    cases made
    exact fun k => rfl

theorem throwWebhook_carried (inTurn : webhookInTurn db call .throws = true) :
    Carried db (throwWebhook db call) call none := by
  cases call with
  | dispatching => cases inTurn
  | enqueueing => cases inTurn
  | requeueing => cases inTurn
  | attempting job | sending job | marking job =>
    intro k
    rw [throwWebhook, queued_rerun (of_decide_eq_true inTurn), pending_rerun]
    rfl
  | taking | retrying | changing => exact fun k => rfl

/-! ### Deliveries -/

def WebhookDb.DeliveredTo (db : WebhookDb) (deliveries : List DeliveryId) (hooks : List WebhookId) : Prop :=
  List.Forall₂ (fun k hook => (db.deliveries.find k).map WebhookDelivery.webhookId = some hook)
    deliveries hooks

def WebhookCall.Delivers (db : WebhookDb) : WebhookCall → Prop
  | .dispatching hooks _ left created | .enqueueing hooks _ left created _ =>
    hooks.Nodup ∧ ∃ done, hooks = done ++ left ∧ db.DeliveredTo created done
  | _ => True

def WebhookDb.Delivered (db : WebhookDb) (k : DeliveryId) : Prop :=
  ∃ row, db.deliveries.find k = some row ∧ row.status = .success

/-- What a step keeps of the deliveries: their webhooks, and those delivered. -/
structure KeptDeliveries (db db' : WebhookDb) : Prop where
  webhook : ∀ k row, db.deliveries.find k = some row →
    ∃ row', db'.deliveries.find k = some row' ∧ row'.webhookId = row.webhookId ∧
      (row.status = .success → row'.status = .success)

theorem KeptDeliveries.refl (same : db'.deliveries = db.deliveries) : KeptDeliveries db db' :=
  ⟨fun k row found => ⟨row, by rw [same]; exact found, rfl, id⟩⟩

theorem KeptDeliveries.deliveredTo (kept : KeptDeliveries db db') {deliveries : List DeliveryId}
    {hooks : List WebhookId} (before : db.DeliveredTo deliveries hooks) :
    db'.DeliveredTo deliveries hooks := by
  refine List.Forall₂.imp (fun k hook own => ?_) before
  obtain ⟨row, found, same⟩ := Option.map_eq_some_iff.mp own
  obtain ⟨row', found', webhook, -⟩ := kept.webhook k row found
  rw [found', Option.map_some, webhook, same]

theorem KeptDeliveries.delivers (kept : KeptDeliveries db db') (before : call.Delivers db) :
    call.Delivers db' := by
  cases call with
  | dispatching | enqueueing =>
    obtain ⟨distinct, done, split, created⟩ := before
    exact ⟨distinct, done, split, kept.deliveredTo created⟩
  | _ => trivial

theorem KeptDeliveries.delivered (kept : KeptDeliveries db db') (before : db.Delivered k) :
    db'.Delivered k := by
  obtain ⟨row, found, success⟩ := before
  obtain ⟨row', found', -, still⟩ := kept.webhook k row found
  exact ⟨row', found', still success⟩

theorem kept_mark {status : DeliveryStatus} {attempts : ℕ} (found : db.deliveries.find id = some row)
    (open_ : row.status ≠ .success) :
    KeptDeliveries db (db.mark id status attempts) := by
  refine ⟨fun k stored there => ?_⟩
  refine Table.exists_find_modify there (fun own => ⟨rfl, fun success => absurd success ?_⟩)
    ⟨rfl, fun success => success⟩
  rw [found] at own
  cases own
  exact open_

theorem rerun_deliveries : (db.rerun job).deliveries = db.deliveries := by
  rw [WebhookDb.rerun]
  split <;> rfl

theorem stepWebhook_kept (held : ∀ k, call.carries k ≤ db.pending k)
    (inTurn : webhookInTurn db call (.proceed outcome) = true) (made : stepWebhook db outcome call = (db', rest)) :
    KeptDeliveries db db' := by
  cases call with
  | dispatching hooks eventType left created =>
    cases left with
    | nil =>
      cases made
      exact .refl rfl
    | cons =>
      cases made
      exact ⟨fun k row found => ⟨row, Table.find_push_of_some found _, rfl, id⟩⟩
  | taking =>
    rw [stepWebhook] at made
    split at made <;> cases made <;> exact .refl rfl
  | sending =>
    cases made
    refine .refl ?_
    rw [WebhookDb.send]
    split <;> rfl
  | marking job result =>
    obtain ⟨row, found, status⟩ := row_of_job held
    have open_ : row.status ≠ .success := by
      rw [status]
      decide
    rw [stepWebhook] at made
    dsimp only at made
    split at made
    · cases made
      exact kept_mark found open_
    · split at made
      · cases made
        exact kept_mark found open_
      · cases made
        refine ⟨fun k row there => ?_⟩
        rw [rerun_deliveries]
        exact (kept_mark found open_).webhook k row there
  | retrying id =>
    obtain ⟨row, found, failed⟩ := (Option.any_eq_true _ _).mp inTurn
    cases made
    refine kept_mark found ?_
    rw [of_decide_eq_true failed]
    decide
  | _ =>
    cases made
    exact .refl rfl

theorem throwWebhook_kept : KeptDeliveries db (throwWebhook db call) := by
  refine .refl ?_
  cases call with
  | attempting | sending | marking => exact rerun_deliveries
  | _ => rfl

theorem stepWebhook_delivers {next : WebhookCall} (delivers : call.Delivers db) (kept : KeptDeliveries db db')
    (made : stepWebhook db outcome call = (db', some next)) :
    next.Delivers db' := by
  cases call with
  | dispatching hooks eventType left created =>
    cases left with
    | nil => cases made
    | cons hook left =>
      have still := kept.delivers delivers
      cases made
      obtain ⟨distinct, done, split, created⟩ := still
      refine ⟨distinct, done ++ [hook], by rw [split, List.append_assoc]; rfl, ?_⟩
      refine List.rel_append created (.cons ?_ .nil)
      rw [Table.find_push, if_pos rfl]
      rfl
  | enqueueing =>
    cases made
    exact delivers
  | taking =>
    rw [stepWebhook] at made
    split at made <;> cases made
    trivial
  | attempting =>
    rw [stepWebhook, Prod.mk.injEq] at made
    obtain ⟨row, -, read⟩ := Option.bind_eq_some_iff.mp made.2
    split at read <;> cases read
    trivial
  | sending | retrying =>
    cases made
    trivial
  | marking job result =>
    rw [stepWebhook] at made
    dsimp only at made
    split at made <;> cases made
  | requeueing | changing => cases made

/-! ### Runs -/

structure WebhookDb.Settled (db : WebhookDb) : Prop where
  dispatched : ∀ d ∈ db.dispatched, d.hooks.Nodup ∧ db.DeliveredTo d.deliveries d.hooks
  sent : ∀ r ∈ db.sent, r.revoked = false

theorem WebhookDb.Settled.keep (settled : db.Settled) (kept : KeptDeliveries db db')
    (dispatched : db'.dispatched = db.dispatched) (sent : db'.sent = db.sent) : db'.Settled where
  dispatched d mem := by
    rw [dispatched] at mem
    exact ⟨(settled.dispatched d mem).1, kept.deliveredTo (settled.dispatched d mem).2⟩
  sent r mem := by
    rw [sent] at mem
    exact settled.sent r mem

theorem rerun_history : (db.rerun job).dispatched = db.dispatched ∧ (db.rerun job).sent = db.sent := by
  rw [WebhookDb.rerun]
  split <;> exact ⟨rfl, rfl⟩

theorem stepWebhook_settled (settled : db.Settled) (delivers : call.Delivers db) (kept : KeptDeliveries db db')
    (inTurn : webhookInTurn db call (.proceed outcome) = true) (made : stepWebhook db outcome call = (db', rest)) :
    db'.Settled := by
  cases call with
  | dispatching hooks eventType left created =>
    cases left with
    | nil =>
      cases made
      obtain ⟨distinct, done, split, created⟩ := delivers
      rw [List.append_nil] at split
      subst split
      refine ⟨fun d mem => ?_, settled.sent⟩
      rcases List.mem_cons.mp mem with rfl | mem
      · exact ⟨distinct, created⟩
      · exact settled.dispatched d mem
    | cons =>
      cases made
      exact settled.keep kept rfl rfl
  | sending job webhookId =>
    cases made
    rw [webhookInTurn, Bool.or_eq_true, Bool.not_eq_true'] at inTurn
    rw [WebhookDb.send]
    split
    · exact settled
    · rename_i sends
      have live := inTurn.resolve_left fun blocked => sends (of_decide_eq_true blocked)
      refine ⟨settled.dispatched, fun r mem => ?_⟩
      rcases List.mem_cons.mp mem with rfl | mem
      · exact live
      · exact settled.sent r mem
  | taking =>
    rw [stepWebhook] at made
    split at made <;> cases made <;> exact settled.keep kept rfl rfl
  | marking job result =>
    rw [stepWebhook] at made
    dsimp only at made
    split at made
    · cases made
      exact settled.keep kept rfl rfl
    · split at made
      · cases made
        exact settled.keep kept rfl rfl
      · cases made
        exact settled.keep kept rerun_history.1 rerun_history.2
  | _ =>
    cases made
    exact settled.keep kept rfl rfl

theorem throwWebhook_settled (settled : db.Settled) (inTurn : webhookInTurn db call .throws = true) :
    (throwWebhook db call).Settled := by
  cases call with
  | dispatching => cases inTurn
  | enqueueing => cases inTurn
  | attempting | sending | marking =>
    exact settled.keep throwWebhook_kept rerun_history.1 rerun_history.2
  | taking | retrying | requeueing | changing => exact settled

theorem nextWebhook_moves (settled : db.Settled) (delivers : call.Delivers db)
    (held : ∀ k, call.carries k ≤ db.pending k) (inTurn : webhookInTurn db call input = true)
    (made : nextWebhook db call input = some (db', rest)) :
    db'.Settled ∧ (∀ next, rest = some next → next.Delivers db') ∧ KeptDeliveries db db' ∧
      Carried db db' call rest := by
  cases input with
  | proceed outcome =>
    have step : stepWebhook db outcome call = (db', rest) := Option.some.inj made
    have kept := stepWebhook_kept held inTurn step
    refine ⟨stepWebhook_settled settled delivers kept inTurn step, fun next goesOn => ?_, kept,
      stepWebhook_carried held inTurn step⟩
    rw [goesOn] at step
    exact stepWebhook_delivers delivers kept step
  | throws =>
    cases made
    exact ⟨throwWebhook_settled settled inTurn,
      nofun, throwWebhook_kept,
      throwWebhook_carried inTurn⟩

theorem enterWebhook_call {request : WebhookRequest} (entered : enterWebhook db request = some call) :
    call.Delivers db ∧ ∀ k, call.carries k = 0 := by
  cases request with
  | dispatch =>
    cases entered
    refine ⟨⟨?_, [], rfl, .nil⟩, fun _ => rfl⟩
    exact db.webhooks.distinct.sublist (List.filter_sublist.map _)
  | retryDelivery =>
    obtain ⟨row, -, read⟩ := Option.bind_eq_some_iff.mp entered
    split at read <;> cases read
    exact ⟨trivial, fun _ => rfl⟩
  | process | change =>
    cases entered
    exact ⟨trivial, fun _ => rfl⟩

variable {s t u : State WebhookDb WebhookCall} {webhooks : Table WebhookId Webhook}

/-- What a state keeps, and the deliveries delivered in a state before. -/
structure WebhooksKept (s t : State WebhookDb WebhookCall) : Prop where
  settled : t.db.Settled
  delivers : ∀ call ∈ t.running, call.Delivers t.db
  jobs : JobOfPending t.db t.running
  delivered : ∀ k, s.db.Delivered k → t.db.Delivered k

theorem carries_le (jobs : JobOfPending db running) (mem : call ∈ running) (k : DeliveryId) :
    call.carries k ≤ db.pending k := by
  rw [← jobs k]
  exact (List.le_sum_of_mem (List.mem_map_of_mem mem)).trans (Nat.le_add_left _ _)

theorem webhooksKept_next {i : ℕ} (kept : WebhooksKept s ⟨db, running⟩) (inTurn : webhookInTurn db call input = true)
    (found : running[i]? = some call) (made : nextWebhook db call input = some (db', rest)) :
    WebhooksKept s ⟨db', resume running i rest⟩ := by
  have mem := List.mem_of_getElem? found
  obtain ⟨settled, goesOn, deliveries, carried⟩ := nextWebhook_moves kept.settled
    (kept.delivers call mem) (carries_le kept.jobs mem) inTurn made
  refine ⟨settled, fun call' mem' => ?_, fun k => ?_, fun k was => ?_⟩
  · rcases mem_resume mem' with before | next
    · exact deliveries.delivers (kept.delivers call' before)
    · exact goesOn call' next
  · have resumed := sum_resume (WebhookCall.carries k) found rest
    have before : db.queued k + (running.map (WebhookCall.carries k)).sum = db.pending k := kept.jobs k
    have moved : db'.queued k + (rest.map (WebhookCall.carries k)).getD 0 + db.pending k =
      db.queued k + call.carries k + db'.pending k := carried k
    change db'.queued k + ((resume running i rest).map (WebhookCall.carries k)).sum = db'.pending k
    omega
  · exact deliveries.delivered (kept.delivered k was)

theorem webhooksKept_run (start : WebhooksKept s s)
    (run : Run webhookSystem.step
      (System.admits fun db call input => webhookInTurn db call input = true) s t) :
    WebhooksKept s t := by
  have inTurn : Run webhookSystem.step
      (System.admitsIn fun x call input => webhookInTurn x.db call input = true) s t :=
    run.mono fun x a fits => by cases a <;> exact fits
  refine System.invariant_in (J := WebhooksKept s) inTurn start (fun kept entered => ?_)
    fun kept fits found made => webhooksKept_next kept fits found made
  obtain ⟨delivers, idle⟩ := enterWebhook_call entered
  refine ⟨kept.settled, fun call mem => ?_, fun k => ?_, kept.delivered⟩
  · rcases List.mem_append.mp mem with mem | mem
    · exact kept.delivers call mem
    · rw [List.mem_singleton.mp mem]
      exact delivers
  · rw [← kept.jobs k, List.map_append, List.sum_append, List.map_singleton, List.sum_singleton, idle k]
    rfl

theorem opening_kept : WebhooksKept ⟨.opening webhooks, []⟩ ⟨.opening webhooks, []⟩ where
  settled := ⟨fun d mem => (List.not_mem_nil mem).elim, fun r mem => (List.not_mem_nil mem).elim⟩
  delivers call mem := by cases mem
  jobs k := rfl
  delivered k delivered := delivered

/-- A dispatch that is over has created one delivery for each webhook subscribed; a pending delivery has a
job that waits, runs or is about to be queued; no request is sent to a revoked webhook; and a delivery
delivered stays so. -/
theorem webhooks_delivered
    (run : Run webhookSystem.step
      (System.admits fun db call input => webhookInTurn db call input = true)
      ⟨.opening webhooks, []⟩ t) :
    (∀ d ∈ t.db.dispatched, d.hooks.Nodup ∧ t.db.DeliveredTo d.deliveries d.hooks) ∧
      (∀ k row, t.db.deliveries.find k = some row → row.status = .pending →
        (∃ job ∈ t.db.jobs, job.deliveryId = k) ∨ ∃ call ∈ t.running, call.carries k = 1) ∧
      (∀ r ∈ t.db.sent, r.revoked = false) ∧
      ∀ u, Run webhookSystem.step
        (System.admits fun db call input => webhookInTurn db call input = true) t u →
        ∀ k, t.db.Delivered k → u.db.Delivered k := by
  have kept := webhooksKept_run opening_kept run
  refine ⟨kept.settled.dispatched, fun k row found status => ?_, kept.settled.sent, fun u later k was => ?_⟩
  · have one : t.db.queued k + (t.running.map (WebhookCall.carries k)).sum = t.db.pending k := kept.jobs k
    rw [pending_of_found found, if_pos status] at one
    by_cases none_waits : t.db.queued k = 0
    · have runs : (t.running.map (WebhookCall.carries k)).sum ≠ 0 := by omega
      obtain ⟨n, mem, nonzero⟩ := List.exists_mem_ne_zero_of_sum_ne_zero runs
      obtain ⟨call, running, rfl⟩ := List.mem_map.mp mem
      have atMost := carries_le kept.jobs running k
      rw [pending_of_found found, if_pos status] at atMost
      exact .inr ⟨call, running, by omega⟩
    · obtain ⟨n, mem, nonzero⟩ := List.exists_mem_ne_zero_of_sum_ne_zero none_waits
      obtain ⟨job, waits, rfl⟩ := List.mem_map.mp mem
      rw [DeliverJob.carries] at nonzero
      exact .inl ⟨job, waits, by_contra fun other => nonzero (if_neg other)⟩
  · exact (webhooksKept_run ⟨kept.settled, kept.delivers, kept.jobs, fun _ was => was⟩ later).delivered k was

/-! ### Failures -/

def paidHook : Webhook := ⟨1, [.invoicePaid], true, none⟩

def paidHooks : Table WebhookId Webhook := (Table.empty.push paidHook).push paidHook

def dispatchBoth : List (Action WebhookRequest WebhookInput) :=
  [.start (.dispatch 1 .invoicePaid none), .advance 0 (.proceed .success),
    .advance 0 (.proceed .success), .advance 0 (.proceed .success), .advance 0 (.proceed .success),
    .advance 0 (.proceed .success)]

/-- The worker takes a job, reads its delivery, sends it and marks it. -/
def attempt (job : DeliverJob) (outcome : SendOutcome) : List (Action WebhookRequest WebhookInput) :=
  [.start (.process job), .advance 0 (.proceed outcome), .advance 0 (.proceed outcome),
    .advance 0 (.proceed outcome), .advance 0 (.proceed outcome)]

/-- One delivery is delivered at once; the other is blocked, retried, and delivered. -/
theorem webhooks_delivered_retried : ∃ t : State WebhookDb WebhookCall,
    t.db.deliveries.values.map (·.status) = [.success, .success] ∧
      (∀ d ∈ t.db.dispatched, d.hooks.Nodup ∧ t.db.DeliveredTo d.deliveries d.hooks) ∧
      (∀ k row, t.db.deliveries.find k = some row → row.status = .pending →
        (∃ job ∈ t.db.jobs, job.deliveryId = k) ∨ ∃ call ∈ t.running, call.carries k = 1) ∧
      (∀ r ∈ t.db.sent, r.revoked = false) ∧
      ∀ u, Run webhookSystem.step
        (System.admits fun db call input => webhookInTurn db call input = true) t u →
        ∀ k, t.db.Delivered k → u.db.Delivered k := by
  obtain ⟨t, run, delivered⟩ := Run.exists_of_exec webhookSystem.step
    (System.admits fun db call input => webhookInTurn db call input = true) ⟨.opening paidHooks, []⟩
    (dispatchBoth ++ attempt ⟨0, 0⟩ .success ++ attempt ⟨1, 0⟩ .blocked ++
      [.start (.retryDelivery 1 1), .advance 0 (.proceed .success), .advance 0 (.proceed .success)] ++
      attempt ⟨1, 0⟩ .networkError ++ attempt ⟨1, 1⟩ .success)
    (fun t => t.db.deliveries.values.map (·.status) = [.success, .success]) (by decide +kernel)
  exact ⟨t, of_decide_eq_true delivered, webhooks_delivered run⟩

/-- A statement of the dispatch that throws leaves the other webhook without a delivery and the delivery
created without a job, a delivery retried twice at once goes from success to failed, and the request of a
webhook revoked meanwhile is sent. -/
theorem webhooks_astray :
    ¬(∀ t, Reaches webhookSystem.step ⟨.opening paidHooks, []⟩ t →
      ∀ d ∈ t.db.dispatched, t.db.DeliveredTo d.deliveries d.hooks) ∧
    ¬(∀ t, Reaches webhookSystem.step ⟨.opening paidHooks, []⟩ t →
      ∀ k row, t.db.deliveries.find k = some row → row.status = .pending →
        (∃ job ∈ t.db.jobs, job.deliveryId = k) ∨ ∃ call ∈ t.running, call.carries k = 1) ∧
    ¬(∀ t u, Reaches webhookSystem.step ⟨.opening paidHooks, []⟩ t → Reaches webhookSystem.step t u →
      ∀ k, t.db.Delivered k → u.db.Delivered k) ∧
    ¬(∀ t, Reaches webhookSystem.step ⟨.opening paidHooks, []⟩ t → ∀ r ∈ t.db.sent, r.revoked = false) := by
  refine ⟨fun all => ?_, fun all => ?_, fun all => ?_, fun all => ?_⟩
  · obtain ⟨t, run, short⟩ := Run.exists_of_exec webhookSystem.step (fun _ _ => True)
      ⟨.opening paidHooks, []⟩
      [.start (.dispatch 1 .invoicePaid none), .advance 0 (.proceed .success), .advance 0 .throws]
      (fun t => t.db.dispatched.any fun d => d.deliveries.length ≠ d.hooks.length) (by decide +kernel)
    obtain ⟨d, mem, differ⟩ := List.any_eq_true.mp short
    exact of_decide_eq_true differ (all t run d mem).length_eq
  · obtain ⟨t, run, stuck⟩ := Run.exists_of_exec webhookSystem.step (fun _ _ => True)
      ⟨.opening paidHooks, []⟩
      [.start (.dispatch 1 .invoicePaid none), .advance 0 (.proceed .success), .advance 0 .throws]
      (fun t => (t.db.deliveries.find 0).any (fun row => row.status = .pending) && t.db.jobs.isEmpty &&
        t.running.isEmpty) (by decide +kernel)
    simp only [Bool.and_eq_true, List.isEmpty_iff] at stuck
    obtain ⟨⟨pending, idle⟩, over_⟩ := stuck
    obtain ⟨row, found, status⟩ := (Option.any_eq_true _ _).mp pending
    rcases all t run 0 row found (of_decide_eq_true status) with ⟨job, mem, -⟩ | ⟨call, mem, -⟩
    · rw [idle] at mem
      cases mem
    · rw [over_] at mem
      cases mem
  · obtain ⟨t, u, run, later, was, lost⟩ := Run.exists_continued webhookSystem.step (fun _ _ => True)
      ⟨.opening paidHooks, []⟩
      (dispatchBoth ++ attempt ⟨0, 0⟩ .blocked ++
        [.start (.retryDelivery 0 0), .start (.retryDelivery 0 0), .advance 0 (.proceed .success),
          .advance 0 (.proceed .success), .advance 0 (.proceed .success), .advance 0 (.proceed .success),
          .start (.process ⟨0, 0⟩), .advance 0 (.proceed .success), .advance 0 (.proceed .success),
          .start (.process ⟨0, 0⟩), .advance 1 (.proceed .success), .advance 1 (.proceed .success),
          .advance 0 (.proceed .success), .advance 0 (.proceed .success)])
      [.advance 0 (.proceed .blocked), .advance 0 (.proceed .blocked)]
      (fun t => (t.db.deliveries.find 0).any fun row => row.status = .success)
      (fun t => (t.db.deliveries.find 0).any fun row => row.status = .failed) (by decide +kernel)
    obtain ⟨row, found, success⟩ := (Option.any_eq_true _ _).mp was
    obtain ⟨row', found', still⟩ := all t u run later 0 ⟨row, found, of_decide_eq_true success⟩
    obtain ⟨row'', found'', failed⟩ := (Option.any_eq_true _ _).mp lost
    rw [found'] at found''
    cases found''
    rw [still] at failed
    exact absurd failed (by decide)
  · obtain ⟨t, run, sent⟩ := Run.exists_of_exec webhookSystem.step (fun _ _ => True)
      ⟨.opening paidHooks, []⟩
      (dispatchBoth ++ [.start (.change (.revoke 0 5)), .advance 0 (.proceed .success)] ++
        attempt ⟨0, 0⟩ .success)
      (fun t => t.db.sent.any fun r => r.revoked) (by decide +kernel)
    obtain ⟨r, mem, revoked⟩ := List.any_eq_true.mp sent
    rw [all t run r mem] at revoked
    cases revoked

end StorageOS
