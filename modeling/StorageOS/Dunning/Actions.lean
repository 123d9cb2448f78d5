import StorageOS.Access.Credentials
import StorageOS.Billing.Issue

/-! Dunning of overdue invoices: the calendar of actions, the daily tick, the jobs that schedule
and execute actions and the restart after a payment is returned, while payments, cancellations,
rectifications and refunds change the invoices. -/

namespace StorageOS

abbrev DunningActionId := ℕ

inductive DunningActionType
  | emailReminder
  | emailReminderFinal
  | accessBlock
  | legalNotice
  | lateFee
  deriving DecidableEq

inductive DunningActionStatus
  | scheduled
  | executed
  | failed
  | cancelled
  deriving DecidableEq

structure DunningStep where
  daysAfter : ℤ
  type : DunningActionType

structure DunningSettings where
  lateFeeEnabled : Bool
  lateFeeGraceDays : ℤ
  accessCutMode : AccessCutMode
  accessCutDays : ℤ
  /-- The business itself is suspended. -/
  suspended : Bool

def dunningCalendar (lateFeeEnabled : Bool) (settings : DunningSettings) : List DunningStep :=
  [⟨1, .emailReminder⟩, ⟨7, .emailReminderFinal⟩, ⟨30, .legalNotice⟩] ++
    (match settings.accessCutMode with
      | .none => []
      | .all | .extras => [⟨settings.accessCutDays, .accessBlock⟩]) ++
    if lateFeeEnabled then [⟨settings.lateFeeGraceDays, .lateFee⟩] else []

structure DunningInvoice where
  status : InvoiceStatus
  kind : InvoiceKind
  total : ℤ
  dueDate : Option Instant
  lateFeeForInvoiceId : Option InvoiceId
  lateFeeInvoice : Option InvoiceId

structure DunningAction where
  invoiceId : InvoiceId
  actionType : DunningActionType
  status : DunningActionStatus
  scheduledFor : Instant
  executedAt : Option Instant
  supersededAt : Option Instant
  /-- `result.accessBlocked`. -/
  accessBlocked : Option Bool

/-- Counts for the index of active actions, one for each invoice and type. -/
def DunningAction.active (a : DunningAction) : Bool :=
  (a.status = .scheduled || a.status = .executed) && a.supersededAt.isNone

/-- The state of an action and of its invoice when the action is recorded as executed. -/
structure DunningExecution where
  actionId : DunningActionId
  superseded : Bool
  invoice : Option InvoiceStatus
  deriving DecidableEq

/-- The invoices and their actions, with what dunning did: the statuses it changed to overdue, the
actions it carried out, and those it recorded as executed. -/
structure DunningDb where
  invoices : Table InvoiceId DunningInvoice
  actions : Table DunningActionId DunningAction
  marked : List (InvoiceId × InvoiceStatus)
  acted : List DunningActionId
  executions : List DunningExecution

def DunningDb.invoiceStatus (db : DunningDb) (id : InvoiceId) : Option InvoiceStatus :=
  (db.invoices.find id).map DunningInvoice.status

def DunningDb.unpaid (db : DunningDb) (id : InvoiceId) : Bool :=
  (db.invoiceStatus id).any InvoiceStatus.payable

def DunningDb.hasActive (db : DunningDb) (invoiceId : InvoiceId) (type : DunningActionType) : Bool :=
  db.actions.rows.any fun r => r.2.invoiceId = invoiceId && r.2.actionType = type && r.2.active

def DunningDb.createAction (db : DunningDb) (invoiceId : InvoiceId) (type : DunningActionType)
    (scheduledFor : Instant) : DunningDb :=
  if db.hasActive invoiceId type then db
  else
    { db with
      actions := db.actions.push
        ⟨invoiceId, type, .scheduled, scheduledFor, none, none, none⟩ }

def dayMs : ℤ := 24 * 60 * 60 * 1000

/-! ### Invoices -/

/-- What other services make of an invoice. -/
inductive InvoiceEvent
  | paid
  | partiallyRefunded
  | refunded
  | rectified
  | cancelled
  /-- The payment is returned. -/
  | reverted (overdue : Bool)
  /-- The due date is put off. -/
  | postponed (dueDate : Instant)

def InvoiceEvent.after (event : InvoiceEvent) (status : InvoiceStatus) : Option InvoiceStatus :=
  let collected := status = .paid || status = .partiallyRefunded
  match event with
  | .paid => if status.payable then some .paid else none
  | .partiallyRefunded => if collected then some .partiallyRefunded else none
  | .refunded => if collected then some .refunded else none
  | .rectified => if status.payable || collected then some .rectified else none
  | .cancelled => if status.payable then some .cancelled else none
  | .reverted overdue => if collected then some (if overdue then .overdue else .issued) else none
  | .postponed _ => if status = .overdue then some .issued else none

/-- The change of an invoice; the actions that wait for a date put off are cancelled with it. -/
def DunningDb.changeInvoice (db : DunningDb) (id : InvoiceId) (event : InvoiceEvent) : DunningDb :=
  match (db.invoiceStatus id).bind event.after with
  | none => db
  | some status =>
    match event with
    | .postponed dueDate =>
      { db with
        invoices := db.invoices.modify id fun i => { i with status, dueDate := some dueDate }
        actions := db.actions.updateMany
          (fun r => r.2.invoiceId = id && r.2.status = .scheduled && r.2.supersededAt.isNone)
          fun a => { a with status := .cancelled } }
    | _ => { db with invoices := db.invoices.modify id fun i => { i with status } }

/-! ### Requests -/

inductive DunningRequest
  | dailyTick
  | processInvoice (invoiceId : InvoiceId)
  | executeAction (actionId : DunningActionId)
  | restart (invoiceId : InvoiceId)
  | change (invoiceId : InvoiceId) (event : InvoiceEvent)

inductive DunningCall
  | postponing
  | collecting
  | marking (ids : List InvoiceId)
  | reading (invoiceId : InvoiceId)
  | scheduling (invoiceId : InvoiceId) (base : Instant) (calendar : List DunningStep)
  | loading (actionId : DunningActionId)
  | examining (actionId : DunningActionId) (action : DunningAction)
  | cancelling (actionId : DunningActionId)
  | acting (actionId : DunningActionId) (action : DunningAction)
  | recording (actionId : DunningActionId) (accessBlocked : Option Bool)
  | restarting (invoiceId : InvoiceId)
  | renewing (invoiceId : InvoiceId) (calendar : List DunningStep)
  | changing (invoiceId : InvoiceId) (event : InvoiceEvent)

/-- What the effect of an action did: an access block may fail or be skipped. -/
inductive ActionEffect
  | done
  | cut (applied : Bool)
  | failed

/-- The date and the settings, the invoices whose payment is in flight or planned, and the effect of
an action. -/
structure DunningInput where
  now : Instant
  settings : DunningSettings
  paymentInFlight : InvoiceId → Bool
  inActivePlan : InvoiceId → Bool
  effect : ActionEffect

def enterDunning (_ : DunningDb) : DunningRequest → Option DunningCall
  | .dailyTick => some .postponing
  | .processInvoice invoiceId => some (.reading invoiceId)
  | .executeAction actionId => some (.loading actionId)
  | .restart invoiceId => some (.restarting invoiceId)
  | .change invoiceId event => some (.changing invoiceId event)

def DunningDb.justOverdue (db : DunningDb) (input : DunningInput) : List InvoiceId :=
  (db.invoices.rows.filter fun r => r.2.status = .issued &&
    (r.2.dueDate.any fun due => due < input.now) && r.2.total > 0 && r.2.kind = .invoice &&
    !input.paymentInFlight r.1).map Prod.fst

def DunningDb.markOverdue (db : DunningDb) (ids : List InvoiceId) : DunningDb :=
  { db with
    invoices := db.invoices.updateMany (fun r => r.1 ∈ ids) fun i => { i with status := .overdue }
    marked := (ids.filterMap fun id => (db.invoiceStatus id).map fun s => (id, s)) ++ db.marked }

/-- The actions of the cycle of an invoice pass to its history; those that waited are cancelled. -/
def DunningDb.giveUpCycle (db : DunningDb) (invoiceId : InvoiceId) (now : Instant) : DunningDb :=
  { db with
    actions := (db.actions.updateMany (fun r => r.2.invoiceId = invoiceId &&
        r.2.supersededAt.isNone && r.2.status = .scheduled)
          fun a => { a with status := .cancelled, supersededAt := some now }).updateMany
      (fun r => r.2.invoiceId = invoiceId && r.2.supersededAt.isNone)
        fun a => { a with supersededAt := some now } }

def DunningDb.renewCycle (db : DunningDb) (invoiceId : InvoiceId) (calendar : List DunningStep)
    (now : Instant) : DunningDb :=
  calendar.foldl (fun db s => db.createAction invoiceId s.type (now + s.daysAfter * dayMs))
    (db.giveUpCycle invoiceId now)

def DunningDb.act (db : DunningDb) (actionId : DunningActionId) : DunningDb :=
  { db with acted := actionId :: db.acted }

def DunningDb.record (db : DunningDb) (actionId : DunningActionId) (accessBlocked : Option Bool)
    (now : Instant) : DunningDb :=
  match db.actions.find actionId with
  | none => db
  | some a =>
    { db with
      actions := db.actions.modify actionId fun a =>
        { a with status := .executed, executedAt := some now, accessBlocked := accessBlocked }
      executions := ⟨actionId, a.supersededAt.isSome, db.invoiceStatus a.invoiceId⟩ ::
        db.executions }

def nextDunning (db : DunningDb) (call : DunningCall) (input : DunningInput) :
    DunningDb × Option DunningCall :=
  match call with
  | .postponing =>
    (if input.settings.suspended then
      { db with
        actions := db.actions.updateMany (fun r => r.2.status = .scheduled)
          fun a => { a with scheduledFor := a.scheduledFor + dayMs } }
      else db, some .collecting)
  | .collecting =>
    match db.justOverdue input with
    | [] => (db, none)
    | ids => (db, some (.marking ids))
  | .marking ids => (db.markOverdue ids, none)
  | .reading invoiceId =>
    match db.invoices.find invoiceId with
    | none => (db, none)
    | some invoice =>
      match invoice.dueDate with
      | none => (db, none)
      | some base =>
        if !invoice.status.payable then (db, none)
        else (db, some (.scheduling invoiceId base (dunningCalendar
          (input.settings.lateFeeEnabled && invoice.lateFeeForInvoiceId.isNone) input.settings)))
  | .scheduling _ _ [] => (db, none)
  | .scheduling invoiceId base (s :: calendar) =>
    (db.createAction invoiceId s.type (base + s.daysAfter * dayMs),
      some (.scheduling invoiceId base calendar))
  | .loading actionId =>
    match db.actions.find actionId with
    | none => (db, none)
    | some action =>
      if action.status ≠ .scheduled then (db, none) else (db, some (.examining actionId action))
  | .examining actionId action =>
    if !db.unpaid action.invoiceId then (db, some (.cancelling actionId))
    else if input.paymentInFlight action.invoiceId || input.inActivePlan action.invoiceId then
      (db, none)
    else (db, some (.acting actionId action))
  | .cancelling actionId =>
    ({ db with
      actions := db.actions.modify actionId fun a =>
        { a with status := .cancelled, executedAt := some input.now } }, none)
  | .acting actionId action =>
    match action.actionType, input.effect with
    -- an access block that fails stays scheduled
    | .accessBlock, .failed => (db, none)
    | .accessBlock, .cut applied => (db.act actionId, some (.recording actionId (some applied)))
    | .accessBlock, .done => (db.act actionId, some (.recording actionId (some false)))
    | _, _ => (db.act actionId, some (.recording actionId none))
  | .recording actionId accessBlocked => (db.record actionId accessBlocked input.now, none)
  | .restarting invoiceId =>
    match db.invoices.find invoiceId with
    | none => (db, none)
    | some invoice =>
      if invoice.status ≠ .overdue || invoice.kind ≠ .invoice || invoice.total ≤ 0 then (db, none)
      else (db, some (.renewing invoiceId ((dunningCalendar input.settings.lateFeeEnabled
        input.settings).filter fun s => !(s.type = .lateFee && (invoice.lateFeeInvoice.isSome ||
          invoice.lateFeeForInvoiceId.isSome)))))
  | .renewing invoiceId calendar => (db.renewCycle invoiceId calendar input.now, none)
  | .changing invoiceId event => (db.changeInvoice invoiceId event, none)

def dunningSystem : Processes.System DunningDb DunningCall DunningRequest DunningInput where
  enter := enterDunning
  next db call input := some (nextDunning db call input)

end StorageOS
