import StorageOS.Dunning.Actions

/-! The access cut for debts under any interleaving of access blocks with the payments and annulments
that give it back, where a business cuts all the access of a customer. -/

namespace StorageOS

open Transition Processes

structure CutInvoice where
  customerId : Option CustomerId
  status : InvoiceStatus

/-- The credentials, the invoices and their actions, with the access blocks that were carried out. -/
structure CutDb where
  access : AccessDb
  invoices : Table InvoiceId CutInvoice
  actions : Table DunningActionId DunningAction
  carried : List DunningActionId

def CutDb.owes (db : CutDb) (customerId : CustomerId) (invoiceId : InvoiceId) : Bool :=
  (db.invoices.find invoiceId).any fun i => i.customerId = some customerId && i.status.payable

def DunningAction.cutApplied (a : DunningAction) : Bool :=
  a.actionType = .accessBlock && a.status = .executed && a.supersededAt.isNone &&
    a.accessBlocked = some true

/-- The cuts applied for the invoices of a customer that are still to be paid. -/
def CutDb.stillBlocked (db : CutDb) (customerId : CustomerId) : Bool :=
  db.actions.rows.any fun r => r.2.cutApplied && db.owes customerId r.2.invoiceId

/-- An invoice is paid, or stops being owed. -/
inductive SettlingEvent
  | paid
  | cancelled
  | rectified

def SettlingEvent.status : SettlingEvent → InvoiceStatus
  | .paid => .paid
  | .cancelled => .cancelled
  | .rectified => .rectified

inductive CutRequest
  | executeAction (actionId : DunningActionId)
  | settle (invoiceId : InvoiceId) (event : SettlingEvent)

inductive CutCall
  | loading (actionId : DunningActionId)
  | examining (actionId : DunningActionId) (invoiceId : InvoiceId)
  | cancelling (actionId : DunningActionId)
  | cutting (actionId : DunningActionId) (customerId : CustomerId) (invoiceId : InvoiceId)
  | recording (actionId : DunningActionId) (accessBlocked : Bool)
  | settling (invoiceId : InvoiceId) (event : SettlingEvent)
  | restoring (customerId : CustomerId)
  | checkingContracts (customerId : CustomerId)
  | lifting (customerId : CustomerId) (call : AccessCall)

/-- The date, whether a payment of the invoice is in flight or planned, and whether the customer has a
contract that runs. -/
structure CutInput where
  now : Instant
  deferred : Bool
  hasContract : Bool

def enterCut (_ : CutDb) : CutRequest → Option CutCall
  | .executeAction actionId => some (.loading actionId)
  | .settle invoiceId event => some (.settling invoiceId event)

def nextCut (db : CutDb) (call : CutCall) (input : CutInput) : CutDb × Option CutCall :=
  match call with
  | .loading actionId =>
    match db.actions.find actionId with
    | none => (db, none)
    | some action =>
      if action.actionType = .accessBlock && action.status = .scheduled then
        (db, some (.examining actionId action.invoiceId))
      else (db, none)
  | .examining actionId invoiceId =>
    match db.invoices.find invoiceId with
    | none => (db, some (.cancelling actionId))
    | some invoice =>
      if !invoice.status.payable then (db, some (.cancelling actionId))
      else if input.deferred then (db, none)
      else
        match invoice.customerId with
        | none => (db, some (.recording actionId false))
        | some customerId => (db, some (.cutting actionId customerId invoiceId))
  | .cancelling actionId =>
    ({ db with
      actions := db.actions.modify actionId fun a =>
        { a with status := .cancelled, executedAt := some input.now } }, none)
  | .cutting actionId customerId invoiceId =>
    match (suspendForDunning .all customerId invoiceId).bind (enterAccess db.access) with
    | none => (db, none)
    | some suspending =>
      ({ db with
        access := (nextAccess db.access suspending ⟨input.now, true⟩).1
        carried := actionId :: db.carried }, some (.recording actionId true))
  | .recording actionId accessBlocked =>
    ({ db with
      actions := db.actions.modify actionId fun a =>
        { a with
          status := .executed
          executedAt := some input.now
          accessBlocked := some accessBlocked } }, none)
  | .settling invoiceId event =>
    match db.invoices.find invoiceId with
    | none => (db, none)
    | some invoice =>
      if !invoice.status.payable then (db, none)
      else
        ({ db with
          invoices := db.invoices.modify invoiceId fun i => { i with status := event.status } },
          invoice.customerId.map .restoring)
  | .restoring customerId =>
    if db.stillBlocked customerId then (db, none) else (db, some (.checkingContracts customerId))
  | .checkingContracts customerId =>
    if !input.hasContract then (db, none)
    else (db, (enterAccess db.access (resumeForCustomer customerId)).map (.lifting customerId))
  | .lifting customerId call =>
    ({ db with access := (nextAccess db.access call ⟨input.now, true⟩).1 },
      (nextAccess db.access call ⟨input.now, true⟩).2.map (.lifting customerId))

def cutSystem : Processes.System CutDb CutCall CutRequest CutInput where
  enter := enterCut
  next db call input := some (nextCut db call input)

end StorageOS
