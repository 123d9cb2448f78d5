import StorageOS.Billing.Rows
import StorageOS.Lib.Processes

/-! The outgoing webhooks: an event is dispatched to the webhooks subscribed to it, a delivery and a job for each; the
worker sends the request of a job and marks the delivery, and the queue runs again a job whose handler threw. Rows and
jobs are written in separate steps. -/

namespace StorageOS

abbrev WebhookId := ℕ
abbrev DeliveryId := ℕ

inductive WebhookEventType
  | invoiceIssued
  | invoiceCreated
  | invoicePaid
  | invoiceOverdue
  | contractSigned
  | leadCreated
  deriving DecidableEq

structure Webhook where
  tenantId : TenantId
  events : List WebhookEventType
  isActive : Bool
  revokedAt : Option Instant
  deriving DecidableEq

inductive DeliveryStatus
  | pending
  | success
  | failed
  deriving DecidableEq

structure WebhookDelivery where
  webhookId : WebhookId
  eventType : WebhookEventType
  status : DeliveryStatus
  attempts : ℕ
  deriving DecidableEq

structure DeliverJob where
  deliveryId : DeliveryId
  attemptsMade : ℕ
  deriving DecidableEq

/-- A dispatch that is over: the webhooks subscribed when they were read, and the deliveries created. -/
structure Dispatched where
  hooks : List WebhookId
  deliveries : List DeliveryId
  deriving DecidableEq

structure SentRequest where
  webhookId : WebhookId
  revoked : Bool
  deriving DecidableEq

/-- The rows and the queue. The dispatches that are over and the requests sent are history. -/
structure WebhookDb where
  webhooks : Table WebhookId Webhook
  deliveries : Table DeliveryId WebhookDelivery
  jobs : List DeliverJob
  dispatched : List Dispatched
  sent : List SentRequest

def WebhookDb.opening (webhooks : Table WebhookId Webhook) : WebhookDb := ⟨webhooks, .empty, [], [], []⟩

/-- `attempts` of the jobs and `MAX_ATTEMPTS`. -/
def maxAttempts : ℕ := 3

/-- The `where` of `dispatch`. -/
def Webhook.subscribed (tenantId : TenantId) (eventType : WebhookEventType)
    (exceptEvent : Option WebhookEventType) (hook : Webhook) : Bool :=
  hook.tenantId = tenantId && hook.isActive && hook.revokedAt.isNone && eventType ∈ hook.events &&
    !exceptEvent.any (· ∈ hook.events)

inductive WebhookChange
  | create (hook : Webhook)
  | update (id : WebhookId) (events : Option (List WebhookEventType)) (isActive : Option Bool)
  | revoke (id : WebhookId) (now : Instant)

def WebhookChange.apply (webhooks : Table WebhookId Webhook) : WebhookChange → Table WebhookId Webhook
  | .create hook => webhooks.push hook
  | .update id events isActive => webhooks.modify id fun hook =>
    { hook with events := events.getD hook.events, isActive := isActive.getD hook.isActive }
  | .revoke id now => webhooks.modify id fun hook => { hook with isActive := false, revokedAt := some now }

inductive WebhookRequest
  | dispatch (tenantId : TenantId) (eventType : WebhookEventType)
      (exceptEvent : Option WebhookEventType)
  /-- The worker takes a job. -/
  | process (job : DeliverJob)
  | retryDelivery (webhookId : WebhookId) (deliveryId : DeliveryId)
  | change (c : WebhookChange)

/-- What the POST came to: a 2xx answer, another one, no answer, or a destination not allowed. -/
inductive SendOutcome
  | success
  | httpError
  | networkError
  | blocked
  deriving DecidableEq

/-- What a request does next. A dispatch keeps the webhooks it read, those left, and its deliveries. -/
inductive WebhookCall
  | dispatching (hooks : List WebhookId) (eventType : WebhookEventType) (left : List WebhookId)
      (created : List DeliveryId)
  | enqueueing (hooks : List WebhookId) (eventType : WebhookEventType) (left : List WebhookId)
      (created : List DeliveryId) (deliveryId : DeliveryId)
  | taking (job : DeliverJob)
  | attempting (job : DeliverJob)
  | sending (job : DeliverJob) (webhookId : WebhookId)
  | marking (job : DeliverJob) (outcome : SendOutcome)
  | retrying (deliveryId : DeliveryId)
  | requeueing (deliveryId : DeliveryId)
  | changing (c : WebhookChange)

/-- A step, with the outcome of the POST where one is made, or an error thrown. -/
inductive WebhookInput
  | proceed (outcome : SendOutcome)
  | throws

def enterWebhook (db : WebhookDb) : WebhookRequest → Option WebhookCall
  | .dispatch tenantId eventType exceptEvent =>
    let hooks := (db.webhooks.rows.filter fun q => q.2.subscribed tenantId eventType exceptEvent).map
      Prod.fst
    some (.dispatching hooks eventType hooks [])
  | .process job => some (.taking job)
  | .retryDelivery webhookId deliveryId =>
    (db.deliveries.find deliveryId).bind fun delivery =>
      if delivery.webhookId = webhookId && delivery.status = .failed then some (.retrying deliveryId)
      else none
  | .change c => some (.changing c)

def WebhookDb.rerun (db : WebhookDb) (job : DeliverJob) : WebhookDb :=
  if job.attemptsMade + 1 < maxAttempts then
    { db with jobs := db.jobs ++ [{ job with attemptsMade := job.attemptsMade + 1 }] }
  else db

def WebhookDb.mark (db : WebhookDb) (id : DeliveryId) (status : DeliveryStatus) (attempts : ℕ) :
    WebhookDb :=
  { db with deliveries := db.deliveries.modify id fun delivery => { delivery with status, attempts } }

def markDeliverySuccess (db : WebhookDb) (id : DeliveryId) (attempts : ℕ) : WebhookDb :=
  db.mark id .success attempts

def markDeliveryAttempt (db : WebhookDb) (id : DeliveryId) (attempts : ℕ) (isFinal : Bool) :
    WebhookDb :=
  db.mark id (if isFinal then .failed else .pending) attempts

def SendOutcome.isFinal (outcome : SendOutcome) (attemptNumber : ℕ) : Bool :=
  outcome = .blocked || attemptNumber ≥ maxAttempts

def WebhookDb.finish (db : WebhookDb) (hooks : List WebhookId) (created : List DeliveryId) : WebhookDb :=
  { db with dispatched := ⟨hooks, created⟩ :: db.dispatched }

def WebhookDb.send (db : WebhookDb) (id : WebhookId) (outcome : SendOutcome) : WebhookDb :=
  if outcome = .blocked then db
  else
    { db with
      sent := ⟨id, (db.webhooks.find id).any fun hook => hook.revokedAt.isSome⟩ :: db.sent }

def stepWebhook (db : WebhookDb) (outcome : SendOutcome) : WebhookCall → WebhookDb × Option WebhookCall
  | .dispatching hooks _ [] created => (db.finish hooks created, none)
  | .dispatching hooks eventType (hook :: left) created =>
    let id := db.deliveries.nextKey
    ({ db with deliveries := db.deliveries.push ⟨hook, eventType, .pending, 0⟩ },
      some (.enqueueing hooks eventType left (created ++ [id]) id))
  | .enqueueing hooks eventType left created id =>
    ({ db with jobs := db.jobs ++ [⟨id, 0⟩] }, some (.dispatching hooks eventType left created))
  | .taking job =>
    if job ∈ db.jobs then ({ db with jobs := db.jobs.erase job }, some (.attempting job)) else (db, none)
  | .attempting job =>
    (db, (db.deliveries.find job.deliveryId).bind fun row =>
      if row.status = .success then none else some (.sending job row.webhookId))
  | .sending job webhookId => (db.send webhookId outcome, some (.marking job outcome))
  | .marking job outcome =>
    let attemptNumber := job.attemptsMade + 1
    if outcome = .success then (markDeliverySuccess db job.deliveryId attemptNumber, none)
    else
      let isFinal := outcome.isFinal attemptNumber
      let marked := markDeliveryAttempt db job.deliveryId attemptNumber isFinal
      -- Otherwise it throws, and the queue runs the job again.
      (if isFinal then marked else marked.rerun job, none)
  | .retrying id => (db.mark id .pending 0, some (.requeueing id))
  | .requeueing id => ({ db with jobs := db.jobs ++ [⟨id, 0⟩] }, none)
  | .changing c => ({ db with webhooks := c.apply db.webhooks }, none)

/-- A statement throws: `dispatch` logs it and ends, and the queue runs a job again. -/
def throwWebhook (db : WebhookDb) : WebhookCall → WebhookDb
  | .dispatching hooks _ _ created | .enqueueing hooks _ _ created _ => db.finish hooks created
  | .attempting job | .sending job _ | .marking job _ => db.rerun job
  | .taking _ | .retrying _ | .requeueing _ | .changing _ => db

def nextWebhook (db : WebhookDb) (call : WebhookCall) :
    WebhookInput → Option (WebhookDb × Option WebhookCall)
  | .proceed outcome => some (stepWebhook db outcome call)
  | .throws => some (throwWebhook db call, none)

def webhookSystem : Processes.System WebhookDb WebhookCall WebhookRequest WebhookInput where
  enter := enterWebhook
  next := nextWebhook

end StorageOS
